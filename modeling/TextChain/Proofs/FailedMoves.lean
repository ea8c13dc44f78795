import TextChain.Proofs.Changes

/-!
Moves that fail. They leave the operations and all chains as they were, with the log of the chain that was
run as the one thing that can be new. So a negation that was pending is pending still, and it goes to the
next step that is recorded. The catalogue is left as it was too, with one exception: what is no class can be
bound under a type that is named, and only then does the call fail.
-/

namespace TextChain

namespace Session

/-- All that was built in a session is as it was; logs are left out. -/
structure Intact (session after : Session) : Prop where
  catalogue : after.catalogue = session.catalogue
  operations : after.operations = session.operations
  handles : after.handles = session.handles
  chains : ∀ key, after.chain? key = session.chain? key

/-- The move registers what is no class, under a type that it names, and all that it leaves is the
binding. -/
def BindsNoClass (session : Session) (move : Move) (after : Session) : Prop :=
  ∃ name form type kind, move = .register name form type ∧ form.isClass = false ∧
    Kind.ofValue type = .ok kind ∧
    after = { session with catalogue := session.catalogue.bind kind name form }

section Failing
variable {session after : Session} {move : Move} {failure : Failure}

/-- A call that fails to register has bound nothing, or what it has bound is no class. -/
theorem register_failed {catalogue : Catalogue} {name : String} {form : Form} {type : Value}
    (failed : catalogue.register name form type = .error failure) :
    catalogue.registered name form type = catalogue ∨ form.isClass = false ∧
      ∃ kind, Kind.ofValue type = .ok kind ∧
        catalogue.registered name form type = catalogue.bind kind name form := by
  unfold Catalogue.register at failed
  unfold Catalogue.registered
  cases placed : Catalogue.kindFor form type with
  | error _ => exact .inl rfl
  | ok kind =>
      have noClass : form.isClass = false := by
        rw [placed, ok_bind, Catalogue.registrationNote] at failed
        by_contra isClass
        rw [Bool.not_eq_false] at isClass
        simp [isClass] at failed
      -- Without a type what is no class has no kind, so the kind is that of the type.
      have named : Kind.ofValue type = .ok kind := by
        unfold Catalogue.kindFor at placed
        split at placed
        · simp [Catalogue.inferKind, noClass, refuse] at placed
        · exact placed
      exact .inr ⟨noClass, kind, named, rfl⟩

theorem failed_intact (change : Change session move (.error failure) after) :
    Intact session after ∨ BindsNoClass session move after := by
  generalize outcome : (.error failure : Outcome Unit) = result at change
  cases change with
  | refused failure => exact .inl ⟨rfl, rfl, rfl, fun _ => rfl⟩
  | ran found runs => exact .inl ⟨rfl, rfl, rfl, run_chain found⟩
  | @registered name form type =>
      cases called : session.catalogue.register name form type with
      | ok catalogue => simp [called, Except.map] at outcome
      | error failure =>
          rcases register_failed called with same | ⟨noClass, kind, named, bound⟩
          · exact .inl ⟨same, rfl, rfl, fun _ => rfl⟩
          · exact .inr ⟨name, form, type, kind, rfl, noClass, named, by rw [bound]⟩
  | _ => cases outcome

theorem failed_keeps (change : Change session move (.error failure) after) :
    after.operations = session.operations ∧ ∀ key, after.chain? key = session.chain? key := by
  rcases failed_intact change with intact | ⟨_, _, _, _, _, _, _, rfl⟩
  · exact ⟨intact.operations, intact.chains⟩
  · exact ⟨rfl, fun _ => rfl⟩

end Failing

/-! ## Pending negations -/

section Pending
variable {session : Session} {key : String} {chain : Chain Nat}

end Pending

end Session

end TextChain
