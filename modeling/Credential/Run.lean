/-! A computation that may fail and keeps a journal. What was noted before a failure stays noted. -/

namespace Credential

structure Run (event fault value : Type) where
  journal : List event
  result : Except fault value

namespace Run

variable {event fault other value next : Type}

def note (happened : event) : Run event fault Unit := ⟨[happened], .ok ()⟩

def fail (cause : fault) : Run event fault value := ⟨[], .error cause⟩

def ofExcept (result : Except fault value) : Run event fault value := ⟨[], result⟩

def mapFault (change : fault → other) (run : Run event fault value) : Run event other value :=
  ⟨run.journal, match run.result with
    | .ok value => .ok value
    | .error cause => .error (change cause)⟩

def andThen (run : Run event fault value) (following : value → Run event fault next) :
    Run event fault next :=
  match run.result with
  | .ok value => ⟨run.journal ++ (following value).journal, (following value).result⟩
  | .error cause => ⟨run.journal, .error cause⟩

instance : Monad (Run event fault) where
  pure value := ⟨[], .ok value⟩
  bind := andThen

@[simp] theorem result_pure (value : value) : (pure value : Run event fault _).result = .ok value := rfl

@[simp] theorem journal_pure (value : value) : (pure value : Run event fault _).journal = [] := rfl

theorem bind_ok {run : Run event fault value} {found : value} (following : value → Run event fault next)
    (succeeds : run.result = .ok found) :
    run >>= following = ⟨run.journal ++ (following found).journal, (following found).result⟩ := by
  simp [bind, andThen, succeeds]

theorem bind_error {run : Run event fault value} {cause : fault}
    (following : value → Run event fault next) (fails : run.result = .error cause) :
    run >>= following = ⟨run.journal, .error cause⟩ := by
  simp [bind, andThen, fails]

@[simp] theorem result_note (happened : event) : (note happened : Run event fault Unit).result = .ok () := rfl

@[simp] theorem result_fail (cause : fault) : (fail cause : Run event fault value).result = .error cause := rfl

@[simp] theorem result_ofExcept (result : Except fault value) :
    (ofExcept result : Run event fault value).result = result := rfl

/-- Journals apart, runs chain as their results do. -/
@[simp] theorem result_bind (run : Run event fault value) (following : value → Run event fault next) :
    (run >>= following).result = run.result >>= fun value => (following value).result := by
  cases found : run.result with
  | ok value => rw [bind_ok following found]; rfl
  | error cause => rw [bind_error following found]; rfl

@[simp] theorem ofExcept_ok_bind (found : value) (following : value → Run event fault next) :
    (ofExcept (.ok found) : Run event fault value) >>= following = following found := by
  have succeeds : (ofExcept (.ok found) : Run event fault value).result = .ok found := rfl
  rw [bind_ok following succeeds]
  simp [ofExcept]

@[simp] theorem ofExcept_error_bind (cause : fault) (following : value → Run event fault next) :
    (ofExcept (.error cause) : Run event fault value) >>= following = ⟨[], .error cause⟩ :=
  bind_error following rfl

end Run

end Credential
