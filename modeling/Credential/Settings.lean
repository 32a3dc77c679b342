import Credential.Algorithm
import Credential.Number.Shortest

/-! Limits and policy of a verification. Settings exist only within their ranges; the timeout is the
exception that not-a-number passes the test of not being zero or below. -/

namespace Credential

structure Settings where
  maxTokenLength : Nat
  maxIssuerLength : Nat
  /-- In the order of their names, each once. -/
  allowed : List Algorithm
  /-- The one network that session keys may be on, or any. -/
  network : Option Nat
  timeout : Binary64
  tokenRange : 0 < maxTokenLength ∧ maxTokenLength ≤ 1024
  issuerRange : 0 < maxIssuerLength ∧ maxIssuerLength ≤ 256
  someAllowed : allowed ≠ []
  networkRange : ∀ number ∈ network, number < 16384
  timeoutRange : timeout.isNonPositive = false
deriving DecidableEq

namespace Settings

/-- Values as given, before their ranges are checked. -/
structure Draft where
  maxTokenLength : Int
  maxIssuerLength : Int
  allowed : List Algorithm
  network : Option Int
  timeout : Binary64

def Draft.initial : Draft := ⟨1024, 256, Algorithm.all, none, .ofDecimal false 10 0⟩

inductive Fault where
  | tokenLength
  | issuerLength
  | noAlgorithm
  | network
  | timeout
deriving DecidableEq

def Fault.message : Fault → Text
  | .tokenLength => "max_token_length must be 1..1024"
  | .issuerLength => "max_issuer_length must be 1..256"
  | .noAlgorithm => "allowed_algorithms must not be empty"
  | .network => "ss58_prefix must be 0..16383"
  | .timeout => "http_timeout must be positive"

def inOrder (algorithms : List Algorithm) : List Algorithm :=
  Algorithm.all.filter fun algorithm => algorithm ∈ algorithms

theorem inOrder_ne_nil {algorithms : List Algorithm} (some_ : algorithms ≠ []) : inOrder algorithms ≠ [] := by
  obtain ⟨algorithm, rest, rfl⟩ := List.exists_cons_of_ne_nil some_
  intro none_
  have absent := List.filter_eq_nil_iff.1 none_ algorithm (Algorithm.mem_all algorithm)
  simp at absent

/-- The first range that does not hold decides. -/
def ofDraft (draft : Draft) : Except Fault Settings :=
  if token : 0 < draft.maxTokenLength ∧ draft.maxTokenLength ≤ 1024 then
    if issuer : 0 < draft.maxIssuerLength ∧ draft.maxIssuerLength ≤ 256 then
      if allowed : draft.allowed ≠ [] then
        if network : ∀ number ∈ draft.network, 0 ≤ number ∧ number < 16384 then
          if timeout : draft.timeout.isNonPositive = false then
            .ok {
              maxTokenLength := draft.maxTokenLength.toNat
              maxIssuerLength := draft.maxIssuerLength.toNat
              allowed := inOrder draft.allowed
              network := draft.network.map Int.toNat
              timeout := draft.timeout
              tokenRange := by omega
              issuerRange := by omega
              someAllowed := inOrder_ne_nil allowed
              networkRange := by
                intro number member
                obtain ⟨given, present, rfl⟩ := Option.map_eq_some_iff.1 (Option.mem_def.1 member)
                have := network given present
                omega
              timeoutRange := timeout }
          else .error .timeout
        else .error .network
      else .error .noAlgorithm
    else .error .issuerLength
  else .error .tokenLength

/-- The settings that a draft without changes gives. -/
def isInitial (settings : Settings) : Bool :=
  match ofDraft .initial with
  | .ok initial => settings = initial
  | .error _ => false

end Settings

end Credential
