/-! Ordered association lists. A name stands at the place of its first insertion; writing it again
replaces the value there, and a name that was erased and written again stands last. -/

namespace Credential

abbrev Assoc (κ : Type u) (ν : Type v) := List (κ × ν)

namespace Assoc

variable {κ : Type u} {ν : Type v} [DecidableEq κ]

def get? (key : κ) : Assoc κ ν → Option ν
  | [] => none
  | (name, value) :: rest => if name = key then some value else get? key rest

def put (key : κ) (value : ν) : Assoc κ ν → Assoc κ ν
  | [] => [(key, value)]
  | (name, old) :: rest =>
    if name = key then (name, value) :: rest else (name, old) :: put key value rest

def erase (key : κ) (entries : Assoc κ ν) : Assoc κ ν := entries.filter fun entry => entry.1 ≠ key

def names (entries : Assoc κ ν) : List κ := entries.map Prod.fst

/-- The last value written under each name. -/
def ofList (pairs : List (κ × ν)) : Assoc κ ν :=
  pairs.foldl (fun entries pair => put pair.1 pair.2 entries) []

/-- The first name that stands in the list a second time, in order of that second place. -/
def repeated? (seen : List κ) : List κ → Option κ
  | [] => none
  | name :: rest => if name ∈ seen then some name else repeated? (name :: seen) rest

theorem get?_put (key other : κ) (value : ν) (entries : Assoc κ ν) :
    get? other (put key value entries) = if key = other then some value else get? other entries := by
  induction entries with
  | nil => by_cases same : key = other <;> simp [put, get?, same]
  | cons entry rest ih =>
    obtain ⟨name, old⟩ := entry
    by_cases here : name = key
    · subst here
      by_cases same : name = other <;> simp [put, get?, same]
    · by_cases same : name = other
      · subst same
        simp [put, get?, here, Ne.symm here]
      · simp [put, get?, here, same, ih]

theorem get?_erase (key other : κ) (entries : Assoc κ ν) :
    get? other (erase key entries) = if key = other then none else get? other entries := by
  induction entries with
  | nil => simp [erase, get?]
  | cons entry rest ih =>
    obtain ⟨name, old⟩ := entry
    by_cases here : name = key
    · subst here
      by_cases same : name = other
      · simpa [erase, get?, same] using ih
      · simpa [erase, get?, same] using ih
    · by_cases same : name = other
      · subst same
        simp [erase, get?, here, Ne.symm here]
      · simpa [erase, get?, here, same] using ih

theorem names_put (key : κ) (value : ν) (entries : Assoc κ ν) :
    names (put key value entries) =
      if key ∈ names entries then names entries else names entries ++ [key] := by
  induction entries with
  | nil => simp [put, names]
  | cons entry rest ih =>
    obtain ⟨name, old⟩ := entry
    by_cases here : name = key
    · subst here
      simp [put, names]
    · have ih' : List.map Prod.fst (put key value rest) = _ := ih
      by_cases later : key ∈ names rest
      · have later' : key ∈ List.map Prod.fst rest := later
        simp only [put, names, here, if_false, List.map_cons, List.mem_cons, ih']
        simp [later']
      · have later' : key ∉ List.map Prod.fst rest := later
        simp only [put, names, here, if_false, List.map_cons, List.mem_cons, ih']
        simp [later', Ne.symm here]

theorem names_erase (key : κ) (entries : Assoc κ ν) :
    names (erase key entries) = (names entries).filter (· ≠ key) := by
  rw [names, names, erase, List.filter_map]
  rfl

theorem mem_names_iff {key : κ} {entries : Assoc κ ν} : key ∈ names entries ↔ (get? key entries).isSome := by
  induction entries with
  | nil => simp [names, get?]
  | cons entry rest ih =>
    obtain ⟨name, value⟩ := entry
    by_cases here : name = key
    · simp [names, get?, here]
    · have later : key ∈ List.map Prod.fst rest ↔ (get? key rest).isSome := ih
      simp [names, get?, here, Ne.symm here, later]

theorem repeated?_eq_none_iff {seen names : List κ} :
    repeated? seen names = none ↔ names.Nodup ∧ ∀ name ∈ names, name ∉ seen := by
  induction names generalizing seen with
  | nil => simp [repeated?]
  | cons first rest ih =>
    rw [repeated?, List.nodup_cons]
    by_cases again : first ∈ seen
    · simp [again]
    · rw [if_neg again, ih]
      constructor
      · intro distinct
        obtain ⟨distinct, unseen⟩ := distinct
        refine ⟨⟨fun member => unseen first member List.mem_cons_self, distinct⟩, ?_⟩
        intro name member
        rcases List.mem_cons.1 member with rfl | later
        · exact again
        · exact fun inside => unseen name later (List.mem_cons_of_mem first inside)
      · intro distinct
        obtain ⟨⟨absent, distinct⟩, unseen⟩ := distinct
        refine ⟨distinct, fun name member inside => ?_⟩
        rcases List.mem_cons.1 inside with rfl | earlier
        · exact absent member
        · exact unseen name (List.mem_cons_of_mem first member) earlier

end Assoc

end Credential
