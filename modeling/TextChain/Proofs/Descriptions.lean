import TextChain.Proofs.Listings
import TextChain.Proofs.TextResults

/-!
Descriptions of what is listed. A list tells the kind for which a name is bound, and a description asks a step
for its own kind. So both tell the same of every form that is bound for its own kind, and a form that a call
binds for another kind is described under that of its family.
-/

namespace TextChain

/-! ## Places -/

/-- The last call that binds a name for a kind. -/
def lastCall? (history : List Registration) (kind : Kind) (name : String) : Option Registration :=
  ((history.filter (·.binds kind)).filter (·.name == name)).getLast?

section Places
variable {history : List Registration} {kind : Kind} {name : String} {call : Registration}

theorem lastForm?_call : lastForm? history kind name = (lastCall? history kind name).map (·.form) := rfl

theorem lastCall?_binds (last : lastCall? history kind name = some call) :
    call ∈ history ∧ call.binds kind = true := by
  have held := (List.mem_filter.mp (List.mem_of_getLast? last)).1
  exact List.mem_filter.mp held

theorem inferred_kind (placed : Catalogue.kindFor call.form .nothing = .ok kind) :
    call.form.family.kind = kind := by
  unfold Catalogue.kindFor Catalogue.inferKind at placed
  cases isClass : call.form.isClass with
  | false => simp [isClass, refuse] at placed
  | true => cases family : call.form.family <;> simp [isClass, family, Family.kind] at placed ⊢ <;> exact placed

theorem misplaced_named (binds : call.binds kind = true) (misplaced : call.form.family.kind ≠ kind) :
    call.type ≠ .nothing := by
  intro unnamed
  have placed := binds_iff.mp binds
  rw [unnamed] at placed
  exact misplaced (inferred_kind placed)

theorem defaults_placed (chance : Edit.Chance) : ∀ call ∈ chance.defaults, ∀ kind,
    call.binds kind = true → call.form.family.kind = kind := by
  have edits : ∀ entry ∈ Edit.all chance, entry.2.family.kind = .transformation := by
    intro entry listed
    rw [Edit.edit_family listed]
    rfl
  have checks : ∀ entry ∈ Check.all, entry.2.family.kind = .assertion := by decide
  intro call built kind binds
  rcases List.mem_append.mp built with edit | check
  · obtain ⟨entry, listed, rfl⟩ := List.mem_map.mp edit
    rw [labelled_binds, decide_eq_true_eq] at binds
    exact (edits entry listed).trans binds
  · obtain ⟨entry, listed, rfl⟩ := List.mem_map.mp check
    rw [labelled_binds, decide_eq_true_eq] at binds
    exact (checks entry listed).trans binds

end Places

/-! ## Descriptions -/

def Catalogue.described (catalogue : Catalogue) (name type : Value) : Outcome Value := do
  let kind ← Kind.ofValue type
  (catalogue.describe kind name).map Description.toValue

section Descriptions
variable {catalogue : Catalogue} {kind other : Kind} {name : String} {form : Form}

theorem described_bound (bound : catalogue.bound? kind (.text name) = some form) {operation : Operation}
    (made : form.make (.text name) [] = .ok operation) :
    catalogue.described (.text name) (.text kind.label) =
      (form.tellSchema (.text name) []).map fun schema => Catalogue.Description.toValue
        { name := .text name, kind := form.family.kind, summary := form.summary, schema } := by
  have found : catalogue.find kind (.text name) = .ok (.text name, form) :=
    (catalogue.find_name kind (.text name)).trans (by rw [bound])
  simp only [Catalogue.described, kind_labelled, Catalogue.describe, found, Form.schemaFor, made, ok_bind]
  cases form.tellSchema (.text name) [] <;> rfl

theorem label_inj : kind.label = other.label ↔ kind = other := by
  cases kind <;> cases other <;> decide

end Descriptions

/-- After any calls that register forms, each entry of a list is described, when it is asked for by the name
and the kind that it tells, with the same name and the same summary, unless its form fails to tell a schema.
The kind that is described is that of the form which the last call for the name bound. It is the one that is
listed, unless a later call than those for what is built in named another kind than that of its form. A list
is given if all forms are steady and have names. -/
theorem listed_entries_are_described (chance : Edit.Chance) (calls : List Registration) :
    ((∀ call ∈ calls, call.name ≠ "" ∧ call.form.Steady) →
      ∃ listings, (registered chance calls).catalogue.list .nothing = .ok listings) ∧
    ∀ listings, (registered chance calls).catalogue.list .nothing = .ok listings →
      ∀ listing ∈ listings, ∃ (name type summary : Value) (call : Registration),
        listing.toValue = .dict [("name", name), ("type", type), ("description", summary)] ∧
        lastCall? (chance.defaults ++ calls) listing.kind listing.name = some call ∧
        (call.form.family.kind ≠ listing.kind → call ∈ calls ∧ call.type ≠ .nothing) ∧
        ((∃ failure, call.form.tellSchema (.text listing.name) [] = .error failure ∧
            (registered chance calls).catalogue.described name type = .error failure) ∨
          ∃ described : Settings,
            (registered chance calls).catalogue.described name type = .ok (.dict described) ∧
            described.get? "name" = some name ∧ described.get? "description" = some summary ∧
            described.get? "type" = some (.text call.form.family.kind.label) ∧
            (described.get? "type" = some type ↔ call.form.family.kind = listing.kind)) := by
  refine ⟨fun ordinary => ⟨_, list_ordinary ordinary⟩, ?_⟩
  intro listings given listing told
  obtain rfl := Except.ok.inj ((list_made fun _ _ _ first => list_makes given first).symm.trans given)
  obtain ⟨form, first, same⟩ := ((history_lists _).first listing).mp told
  obtain ⟨operation, made⟩ := list_makes given first
  have bound := bindings_mem.mp (List.mem_of_find?_eq_some first)
  -- The form that is listed is that of the last call, which is also the one that is asked for.
  obtain ⟨call, last, rfl⟩ := Option.map_eq_some_iff.mp (lastForm?_call ▸ bound)
  obtain ⟨held, binds⟩ := lastCall?_binds last
  have found : (registered chance calls).catalogue.bound? listing.kind (.text listing.name) =
      some call.form := (registered_bound? chance calls listing.kind (.text listing.name)).trans bound
  have asked := described_bound found made
  refine ⟨_, _, _, call, rfl, last, ?misplaced, ?described⟩
  case misplaced =>
    intro misplaced
    refine ⟨?_, misplaced_named binds misplaced⟩
    -- What is built in stands under its own kind, so the call is one of the later ones.
    rcases List.mem_append.mp held with builtIn | later
    · exact absurd (defaults_placed chance call builtIn _ binds) misplaced
    · exact later
  case described =>
    cases schema : call.form.tellSchema (.text listing.name) [] with
    | error failure =>
        rw [schema] at asked
        exact Or.inl ⟨failure, rfl, asked⟩
    | ok schema =>
        rw [schema] at asked
        refine Or.inr ⟨_, asked, rfl, ?summary, rfl, ?type⟩
        case summary =>
          rw [same]
          rfl
        case type =>
          rw [← label_inj]
          exact ⟨fun same => Value.text.inj (Option.some.inj same), fun same => by rw [← same]; rfl⟩

def oddCall : Registration := ⟨"odd", Extra.untyped, .text "assertion"⟩

/-- The list tells of a test, and the description of a transformation. -/
theorem odd_described : (∀ call ∈ [oddCall], call.name ≠ "" ∧ call.form.Steady) ∧
    ∃ (listings : List Catalogue.Listing) (described : Settings),
      (registered .standing [oddCall]).catalogue.list .nothing = .ok listings ∧
      ⟨"odd", .assertion, "Belong to no namespace."⟩ ∈ listings ∧
      (registered .standing [oddCall]).catalogue.described (.text "odd") (.text "assertion") =
        .ok (.dict described) ∧
      described.get? "description" = some (.text "Belong to no namespace.") ∧
      described.get? "type" = some (.text "transformation") := by
  have ordinary : ∀ call ∈ [oddCall], call.name ≠ "" ∧ call.form.Steady := by
    simp only [List.forall_mem_singleton]
    exact ⟨by decide, Form.steady_of_plain rfl rfl fun _ _ => rfl⟩
  obtain ⟨given, agree⟩ := listed_entries_are_described .standing [oddCall]
  obtain ⟨listings, told⟩ := given ordinary
  have lists : Lists _ listings := Except.ok.inj ((list_ordinary ordinary).symm.trans told) ▸ history_lists _
  have odd : ⟨"odd", .assertion, "Belong to no namespace."⟩ ∈ listings :=
    (lists.first _).mpr ⟨Extra.untyped, rfl, rfl⟩
  obtain ⟨_, _, _, call, shown, last, _, described⟩ := agree listings told _ odd
  cases shown
  obtain rfl : oddCall = call := Option.some.inj last
  rcases described with ⟨_, untold, _⟩ | ⟨described, asked, _, summary, type, _⟩
  · cases untold
  · exact ⟨ordinary, listings, described, told, odd, asked, summary, type⟩

end TextChain
