import TextChain.Proofs.FailedMoves
import TextChain.Proofs.FluentCalls
import TextChain.Proofs.Opposites
import TextChain.Proofs.Refusals

/-!
What a catalogue makes of a history of registrations. For each kind every name stands at the place of
its first registration, with the form of its last one, and whatever is asked of the catalogue is answered
from that. Calls that are refused leave no trace, unless what they register is no class.
-/

namespace TextChain

/-! ## Histories -/

/-- A call that registers a form under a name. -/
structure Registration where
  name : String
  form : Form
  type : Value := .nothing

namespace Registration

def move (call : Registration) : Move := .register call.name call.form call.type

/-- The call binds its name for the kind. -/
def binds (kind : Kind) (call : Registration) : Bool :=
  match Catalogue.kindFor call.form call.type with
  | .ok found => found = kind
  | .error _ => false

end Registration

def Edit.Chance.defaults (chance : Edit.Chance) : List Registration :=
  ((Edit.all chance).map fun entry => ⟨entry.1, entry.2, .text Kind.transformation.label⟩) ++
    Check.all.map fun entry => ⟨entry.1, entry.2, .text Kind.assertion.label⟩

def registered (chance : Edit.Chance) (calls : List Registration) : Session :=
  ({ catalogue := chance.catalogue } : Session).play (calls.map Registration.move)

def firstNames (history : List Registration) (kind : Kind) : List String :=
  ((history.filter (·.binds kind)).map (·.name)).eraseDups

def lastForm? (history : List Registration) (kind : Kind) (name : String) : Option Form :=
  ((history.filter (·.binds kind)).filter (·.name == name)).getLast?.map (·.form)

def bindings (history : List Registration) (kind : Kind) : List (String × Form) :=
  (firstNames history kind).filterMap fun name =>
    (lastForm? history kind name).map fun form => (name, form)

/-! ## Binding in turn -/

def bindAll (entries : List (String × Form)) (calls : List Registration) : List (String × Form) :=
  calls.foldl (fun entries call => bindForm call.name call.form entries) entries

section Binding
variable {entries : List (String × Form)} {name : String} {form : Form}

theorem bindForm_names (name : String) (form : Form) (entries : List (String × Form)) :
    (bindForm name form entries).map (·.1) =
      if name ∈ entries.map (·.1) then entries.map (·.1) else entries.map (·.1) ++ [name] := by
  induction entries with
  | nil => rfl
  | cons entry rest ih =>
      by_cases same : entry.1 = name
      · simp [bindForm, same]
      · have other : name ≠ entry.1 := Ne.symm same
        by_cases later : name ∈ rest.map (·.1)
        · simp only [bindForm, beq_eq_false_iff_ne.mpr same, Bool.false_eq_true, ↓reduceIte,
            List.map_cons, ih, if_pos later, List.mem_cons_of_mem _ later]
        · simp only [bindForm, beq_eq_false_iff_ne.mpr same, Bool.false_eq_true, ↓reduceIte,
            List.map_cons, ih, if_neg later, List.mem_cons, other, false_or, List.cons_append]

theorem bindForm_distinct (distinct : (entries.map (·.1)).Nodup) :
    ((bindForm name form entries).map (·.1)).Nodup := by
  rw [bindForm_names]
  split
  · exact distinct
  next absent =>
    refine List.nodup_append.mpr ⟨distinct, by simp, fun other member last listed => ?_⟩
    rw [List.mem_singleton.mp listed]
    rintro rfl
    exact absent member

theorem bindForm_finds_other {other : String} (different : name ≠ other) :
    ((bindForm name form entries).find? fun entry => entry.1 == other) =
      entries.find? fun entry => entry.1 == other := by
  induction entries with
  | nil => simp [bindForm, different]
  | cons entry rest ih =>
      by_cases same : entry.1 = name
      · simp [bindForm, same, different]
      · rw [bindForm, if_neg (by simpa using same), List.find?_cons, List.find?_cons, ih]

theorem bindForm_new (absent : name ∉ entries.map (·.1)) :
    bindForm name form entries = entries ++ [(name, form)] := by
  induction entries with
  | nil => rfl
  | cons entry rest ih =>
      rw [List.map_cons, List.mem_cons, not_or] at absent
      rw [bindForm, if_neg (by simpa using Ne.symm absent.1), ih absent.2]
      rfl

theorem eraseDups_distinct {names : List String} (distinct : names.Nodup) :
    names.eraseDups = names := by
  induction names with
  | nil => rfl
  | cons first rest ih =>
      obtain ⟨absent, distinct⟩ := List.nodup_cons.mp distinct
      have kept : rest.filter (fun name => !name == first) = rest := by
        refine List.filter_eq_self.mpr fun name member => ?_
        have other : name ≠ first := fun same => absent (same ▸ member)
        simp [other]
      rw [List.eraseDups_cons, kept, ih distinct]

theorem bindAll_distinct (calls : List Registration) (distinct : (entries.map (·.1)).Nodup) :
    ((bindAll entries calls).map (·.1)).Nodup := by
  induction calls generalizing entries with
  | nil => exact distinct
  | cons call rest ih => exact ih (bindForm_distinct distinct)

theorem bindAll_names (calls : List Registration) (distinct : (entries.map (·.1)).Nodup) :
    (bindAll entries calls).map (·.1) = (entries.map (·.1) ++ calls.map (·.name)).eraseDups := by
  induction calls generalizing entries with
  | nil => simp [bindAll, eraseDups_distinct distinct]
  | cons call rest ih =>
      rw [bindAll, List.foldl_cons]
      refine (ih (bindForm_distinct distinct)).trans ?_
      -- A name that is bound already repeats one in front of it, so it is dropped on either side.
      rw [bindForm_names]
      split
      next bound => simp [List.eraseDups_append, List.removeAll, bound]
      next => simp

theorem bindAll_finds (calls : List Registration) (name : String) :
    ((bindAll entries calls).find? fun entry => entry.1 == name) =
      ((calls.filter (·.name == name)).getLast?.map fun call => (name, call.form)).or
        (entries.find? fun entry => entry.1 == name) := by
  induction calls generalizing entries with
  | nil => simp [bindAll]
  | cons call rest ih =>
      rw [bindAll, List.foldl_cons]
      refine ih.trans ?_
      by_cases same : call.name = name
      · subst same
        rw [bindForm_finds, List.filter_cons_of_pos (by simp), List.getLast?_cons]
        cases (rest.filter fun other => other.name == call.name).getLast? <;> simp
      · rw [bindForm_finds_other same, List.filter_cons_of_neg (by simpa using same)]

theorem bindAll_new (more : List (String × Form)) (type : Value)
    (distinct : ((entries ++ more).map (·.1)).Nodup) :
    bindAll entries (more.map fun entry => ⟨entry.1, entry.2, type⟩) = entries ++ more := by
  induction more generalizing entries with
  | nil => simp [bindAll]
  | cons entry rest ih =>
      have absent : entry.1 ∉ entries.map (·.1) := by
        rw [List.map_append, List.nodup_append] at distinct
        intro member
        exact distinct.2.2 _ member entry.1 (by simp) rfl
      rw [List.map_cons, bindAll, List.foldl_cons, bindForm_new absent]
      refine (ih (by simpa using distinct)).trans ?_
      simp

end Binding

/-! ## Sessions -/

section Sessions
variable {session : Session} {call : Registration} {kind : Kind}

theorem binds_iff : call.binds kind = true ↔ Catalogue.kindFor call.form call.type = .ok kind := by
  unfold Registration.binds
  cases Catalogue.kindFor call.form call.type <;> simp

theorem bind_entries (catalogue : Catalogue) (kind other : Kind) (name : String) (form : Form) :
    (catalogue.bind kind name form).entries other =
      if kind = other then bindForm name form (catalogue.entries other)
      else catalogue.entries other := by
  cases kind <;> cases other <;> rfl

theorem register_cases (session : Session) (call : Registration) :
    (∃ failure, Catalogue.kindFor call.form call.type = .error failure ∧
      session.make call.move = (.error failure, session)) ∨
    ∃ kind, Catalogue.kindFor call.form call.type = .ok kind ∧ session.make call.move =
      ((Catalogue.registrationNote kind call.name call.form).map fun _ => (),
        { session with catalogue := session.catalogue.bind kind call.name call.form }) := by
  cases placed : Catalogue.kindFor call.form call.type with
  | error failure =>
      refine Or.inl ⟨failure, rfl, ?_⟩
      simp [Session.make, Registration.move, Session.register, Catalogue.register, Catalogue.registered,
        placed, Except.map, Reply.ended]
  | ok kind =>
      refine Or.inr ⟨kind, rfl, ?_⟩
      simp only [Session.make, Registration.move, Session.register, Catalogue.register,
        Catalogue.registered, placed, Reply.ended, ok_bind]
      cases Catalogue.registrationNote kind call.name call.form <;> rfl

theorem register_entries (session : Session) (call : Registration) (kind : Kind) :
    (session.after call.move).catalogue.entries kind =
      if call.binds kind then bindForm call.name call.form (session.catalogue.entries kind)
      else session.catalogue.entries kind := by
  rcases register_cases session call with ⟨failure, refused, made⟩ | ⟨found, placed, made⟩
  · simp [Session.after, made, Registration.binds, refused]
  · simp only [Session.after, made, Registration.binds, placed, bind_entries, decide_eq_true_eq]

theorem play_entries (session : Session) (calls : List Registration) (kind : Kind) :
    (session.play (calls.map Registration.move)).catalogue.entries kind =
      bindAll (session.catalogue.entries kind) (calls.filter (·.binds kind)) := by
  induction calls generalizing session with
  | nil => rfl
  | cons call rest ih =>
      rw [List.map_cons, Session.play, List.foldl_cons]
      refine (ih (session.after call.move)).trans ?_
      rw [register_entries]
      by_cases bound : call.binds kind = true
      · rw [if_pos bound, List.filter_cons_of_pos bound, bindAll, bindAll, List.foldl_cons]
      · rw [if_neg bound, List.filter_cons_of_neg bound]

end Sessions

/-! ## What a history binds -/

section Bindings
variable {entries : List (String × Form)} {kind : Kind} {name : String} {form : Form}

theorem labelled_binds (entry : String × Form) (named kind : Kind) :
    Registration.binds kind ⟨entry.1, entry.2, .text named.label⟩ = decide (named = kind) := by
  cases named <;> rfl

theorem defaults_bound (chance : Edit.Chance) (kind : Kind) :
    bindAll [] (chance.defaults.filter (·.binds kind)) = chance.catalogue.entries kind := by
  have held : chance.defaults.filter (·.binds kind) =
      (chance.catalogue.entries kind).map fun entry => ⟨entry.1, entry.2, .text kind.label⟩ := by
    cases kind <;>
      simp [Edit.Chance.defaults, List.filter_append, List.filter_map, Function.comp_def, labelled_binds,
        Edit.Chance.catalogue, Catalogue.entries]
  rw [held]
  exact bindAll_new _ _ (chance.distinct kind)

theorem entries_by_name (distinct : (entries.map (·.1)).Nodup) :
    ((entries.map (·.1)).filterMap fun name => entries.find? fun entry => entry.1 == name) =
      entries := by
  rw [List.filterMap_map]
  calc entries.filterMap ((fun name => entries.find? fun entry => entry.1 == name) ∘ (·.1))
      = entries.filterMap some :=
        List.filterMap_congr fun entry listed => find?_distinct distinct listed
    _ = entries := List.filterMap_some

theorem bindAll_last (history : List Registration) (kind : Kind) (name : String) :
    ((bindAll [] (history.filter (·.binds kind))).find? fun entry => entry.1 == name) =
      (lastForm? history kind name).map fun form => (name, form) := by
  rw [bindAll_finds, List.find?_nil, Option.or_none, lastForm?, Option.map_map]
  rfl

theorem bindAll_bindings (history : List Registration) (kind : Kind) :
    bindAll [] (history.filter (·.binds kind)) = bindings history kind := by
  let held := history.filter (·.binds kind)
  have names : (bindAll [] held).map (·.1) = firstNames history kind :=
    bindAll_names held List.nodup_nil
  calc bindAll [] held
      = ((bindAll [] held).map (·.1)).filterMap fun name =>
          (bindAll [] held).find? fun entry => entry.1 == name :=
        (entries_by_name (bindAll_distinct held (by simp))).symm
    _ = (firstNames history kind).filterMap fun name =>
          (lastForm? history kind name).map fun form => (name, form) := by
        rw [names]
        exact List.filterMap_congr fun name _ => bindAll_last history kind name

theorem bindings_distinct (history : List Registration) (kind : Kind) :
    ((bindings history kind).map (·.1)).Nodup := by
  rw [← bindAll_bindings]
  exact bindAll_distinct _ List.nodup_nil

theorem bindings_find (history : List Registration) (kind : Kind) (name : String) :
    ((bindings history kind).find? fun entry => entry.1 == name) =
      (lastForm? history kind name).map fun form => (name, form) := by
  rw [← bindAll_bindings]
  exact bindAll_last history kind name

theorem bindings_mem {history : List Registration} :
    (name, form) ∈ bindings history kind ↔ lastForm? history kind name = some form := by
  constructor
  · intro listed
    have found := find?_distinct (bindings_distinct history kind) listed
    rw [bindings_find] at found
    obtain ⟨last, bound, same⟩ := Option.map_eq_some_iff.mp found
    cases same
    exact bound
  · intro bound
    refine List.mem_of_find?_eq_some (p := fun entry => entry.1 == name) ?_
    rw [bindings_find, bound]
    rfl

theorem registered_entries (chance : Edit.Chance) (calls : List Registration) (kind : Kind) :
    (registered chance calls).catalogue.entries kind = bindings (chance.defaults ++ calls) kind := by
  -- A new session holds what the default calls have bound, so its calls go on where those end.
  rw [registered, play_entries, ← bindAll_bindings, List.filter_append, bindAll, bindAll,
    List.foldl_append]
  exact congrArg (fun entries => List.foldl _ entries _) (defaults_bound chance kind).symm

theorem registered_bound? (chance : Edit.Chance) (calls : List Registration) (kind : Kind) (name : Name) :
    (registered chance calls).catalogue.bound? kind name =
      lastForm? (chance.defaults ++ calls) kind name.label := by
  rw [Catalogue.bound?, registered_entries, bindings_find, Option.map_map]
  exact Option.map_id'

end Bindings

/-! ## Answers -/

end TextChain
