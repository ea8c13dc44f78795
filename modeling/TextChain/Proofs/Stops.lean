import TextChain.Proofs.Places
import TextChain.Proofs.Walks

/-!
Where building stops. A step that is not refused leads to the kind of chain for which the check looks at
the next entry, so building and the check go from entry to entry at the same kind. At an entry that
building refuses the check finds an issue, unless the form of the step refuses it only for its settings. The
check has no list of issues to give if a form tells no schema to a step without settings.
-/

namespace TextChain

/-! ## Steps that are not refused -/

section Step
variable {catalogue : Catalogue} {chain next : Chain Operation} {step : Step}

theorem name?_toValue {value : Value} {name : Name} (spelled : value.name? = some name) :
    value = name.toValue := by
  cases value <;> cases spelled <;> rfl

theorem step_asks_name {kind : Kind} {operation : Value} {settings : Settings} {made : Operation}
    (stepped : catalogue.step kind operation settings = .ok made) :
    ∃ name : Name, operation = name.toValue := by
  obtain ⟨_, _, prepared⟩ := bind_eq_ok.mp stepped
  obtain ⟨_, found, _⟩ := bind_eq_ok.mp prepared
  obtain ⟨_, _, found⟩ := bind_eq_ok.mp found
  split at found
  next given _ spelled _ => exact ⟨given, name?_toValue spelled⟩
  next =>
    obtain ⟨_, _, impossible⟩ := bind_eq_ok.mp found
    cases impossible

theorem replayed_named (stepped : chain.replayStep catalogue step = .ok next)
    (truthful : step.operation.truthy = true) : step.Named := by
  cases mark : Control.ofValue? step.operation with
  | some control => exact Step.named_of_text (control_isText mark) truthful
  | none =>
      rw [replay_plain mark, Chain.apply] at stepped
      cases made : catalogue.step chain.kind step.operation step.settings with
      | error failure =>
          rw [made] at stepped
          cases stepped
      | ok operation =>
          obtain ⟨name, called⟩ := step_asks_name made
          rw [called] at truthful
          exact ⟨name, called, Name.ne_empty_of_truthy truthful⟩

end Step

/-! ## Stopping -/

/-- Replaying does the steps in front of a position, and fails with the one at it. -/
def StopsAt (catalogue : Catalogue) (chain : Chain Operation) (steps : List Step) (position : Nat)
    (failure : Failure) : Prop :=
  ∃ step reached, steps[position]? = some step ∧
    Chain.replay catalogue chain (steps.take position) = .ok reached ∧
    reached.replayStep catalogue step = .error failure

section Stop
variable {catalogue : Catalogue}

/-- Replaying fails just if it stops somewhere. -/
theorem replay_error_iff {chain : Chain Operation} {steps : List Step} {failure : Failure} :
    Chain.replay catalogue chain steps = .error failure ↔
      ∃ position, StopsAt catalogue chain steps position failure := by
  induction steps generalizing chain with
  | nil =>
      refine iff_of_false (by simp [Chain.replay]) ?_
      rintro ⟨position, step, _, found, _⟩
      cases found
  | cons step rest ih =>
      rw [Chain.replay, bind_eq_error]
      constructor
      · rintro (failed | ⟨next, stepped, failed⟩)
        · exact ⟨0, step, chain, rfl, rfl, failed⟩
        · obtain ⟨position, later, reached, found, replayed, failed⟩ := ih.mp failed
          exact ⟨position + 1, later, reached, by simpa using found,
            bind_eq_ok.mpr ⟨next, stepped, replayed⟩, failed⟩
      · rintro ⟨position, later, reached, found, replayed, failed⟩
        cases position with
        | zero =>
            cases found
            cases replayed
            exact Or.inl failed
        | succ position =>
            obtain ⟨next, stepped, replayed⟩ := bind_eq_ok.mp replayed
            exact Or.inr ⟨next, stepped,
              ih.mpr ⟨position, later, reached, by simpa using found, replayed, failed⟩⟩

theorem replay_append (chain : Chain Operation) (front back : List Step) :
    Chain.replay catalogue chain (front ++ back) =
      (Chain.replay catalogue chain front >>= fun reached => Chain.replay catalogue reached back) := by
  induction front generalizing chain with
  | nil => rfl
  | cons step rest ih =>
      rw [List.cons_append, Chain.replay, Chain.replay]
      cases chain.replayStep catalogue step with
      | error failure => rfl
      | ok next => exact ih next

theorem replayed_before {chain reached : Chain Operation} {steps : List Step} {index position : Nat}
    (before : index ≤ position)
    (replayed : Chain.replay catalogue chain (steps.take position) = .ok reached) :
    ∃ earlier, Chain.replay catalogue chain (steps.take index) = .ok earlier := by
  have cut := List.take_append_drop index (steps.take position)
  rw [List.take_take, Nat.min_eq_left before] at cut
  rw [← cut, replay_append] at replayed
  obtain ⟨earlier, first, _⟩ := bind_eq_ok.mp replayed
  exact ⟨earlier, first⟩

theorem not_past_stop {chain reached : Chain Operation} {steps : List Step} {position index : Nat}
    {failure : Failure} (stops : StopsAt catalogue chain steps position failure) (past : position < index)
    (replayed : Chain.replay catalogue chain (steps.take index) = .ok reached) : False := by
  obtain ⟨step, stopped, found, before, failed⟩ := stops
  obtain ⟨earlier, through⟩ := replayed_before past replayed
  rw [List.take_add_one, found, Option.toList_some, replay_append, before, ok_bind, Chain.replay,
    failed] at through
  cases through

theorem stops_once {chain : Chain Operation} {steps : List Step} {position other : Nat}
    {failure found : Failure} (stops : StopsAt catalogue chain steps position failure)
    (again : StopsAt catalogue chain steps other found) : position = other := by
  have ⟨_, _, _, replayed, _⟩ := stops
  have ⟨_, _, _, replayedAgain, _⟩ := again
  rcases Nat.lt_trichotomy position other with before | same | behind
  · exact (not_past_stop stops before replayedAgain).elim
  · exact same
  · exact (not_past_stop again behind replayed).elim

/-- As far as the steps are replayed, every entry is checked for the kind of the chain on which its step
is replayed. -/
theorem Checked.reached {kind : Kind} {entries : List Value} {steps : List Step} {checks : List Checkup}
    (checked : Checked catalogue kind entries steps checks) (named : ∀ step ∈ steps, step.Named)
    {chain reached : Chain Operation} (start : chain.kind = kind) {index : Nat} {step : Step}
    (found : steps[index]? = some step)
    (replayed : Chain.replay catalogue chain (steps.take index) = .ok reached) :
    ∃ issues, checks[index]? = some ⟨reached.kind, issues⟩ ∧
      (¬ step.Passes catalogue reached.kind → issues ≠ []) := by
  induction checked generalizing chain index with
  | none => cases found
  | @more kind entry head issues entries steps checks first others ih =>
      obtain ⟨namedHead, namedRest⟩ := List.forall_mem_cons.mp named
      cases index with
      | zero =>
          cases found
          cases replayed
          refine ⟨issues, by rw [start]; rfl, ?_⟩
          rw [start]
          intro failing
          obtain ⟨issue, member, _⟩ := first.mpr (Or.inl failing)
          exact List.ne_nil_of_mem member
      | succ index =>
          obtain ⟨next, stepped, replayed⟩ := bind_eq_ok.mp replayed
          have leads := (replayed_suits stepped namedHead).2
          rw [start] at leads
          exact ih namedRest leads (by simpa using found) replayed

end Stop

/-! ## Entries without places -/

section Unplaced
variable {label : String} {position : Nat}

end Unplaced

/-! ## Messages -/

end TextChain
