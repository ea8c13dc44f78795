import TextChain.Proofs.Registrations

/-!
What a catalogue lists after a history of registrations: for each kind every form that is bound there,
once, under the first of its names. Binding a name anew can move a form to another of its names, or take
it out. A list makes a step of every form that it tells of, and fails if a form refuses that.
-/

namespace TextChain

open Catalogue (Listing)

/-! ## Order -/

theorem textLe_iff (a b : List Char) : textLe a b = true ↔ ¬ b < a := by
  induction a generalizing b with
  | nil => simp [textLe]
  | cons x a ih =>
      cases b with
      | nil => simp [textLe]
      | cons y b =>
          rw [textLe, List.cons_lt_cons_iff]
          by_cases same : x = y
          · subst same
            simp [ih]
          · have apart : x.toNat ≠ y.toNat := fun alike => same (Char.toNat_inj.mp alike)
            have order : y < x ↔ y.toNat < x.toNat := Iff.rfl
            simp only [same, Ne.symm same, order, ↓reduceIte, decide_eq_true_eq, false_and, or_false]
            omega

theorem texts_in_order (first second : String) :
    textLe first.toList second.toList = true ↔ first ≤ second :=
  textLe_iff first.toList second.toList

def Before (first second : Listing) : Prop :=
  first.kind.label < second.kind.label ∨ first.kind = second.kind ∧ first.name < second.name

/-- Listings of one kind under distinct names are sorted by name. -/
theorem sorted_before (kind : Kind) {listings : List Listing}
    (ofKind : ∀ listing ∈ listings, listing.kind = kind) (distinct : (listings.map (·.name)).Nodup) :
    (listings.mergeSort Listing.le).Pairwise Before := by
  have sorted : (listings.mergeSort Listing.le).Pairwise fun first second =>
      Listing.le first second = true := by
    refine List.pairwise_mergeSort ?trans ?total listings
    case trans =>
      intro first second third
      simp only [Listing.le, texts_in_order]
      exact String.le_trans
    case total =>
      intro first second
      simp only [Listing.le, Bool.or_eq_true, texts_in_order]
      exact String.le_total _ _
  have reordered := List.mergeSort_perm listings Listing.le
  have apart : (listings.mergeSort Listing.le).Pairwise fun first second => first.name ≠ second.name :=
    List.pairwise_map.mp ((reordered.map Listing.name).nodup_iff.mpr distinct)
  refine (sorted.and apart).imp_of_mem ?_
  rintro first second firstListed secondListed ⟨le, other⟩
  refine Or.inr ⟨?_, Std.lt_of_le_of_ne ((texts_in_order _ _).mp le) other⟩
  exact (ofKind first (reordered.mem_iff.mp firstListed)).trans
    (ofKind second (reordered.mem_iff.mp secondListed)).symm

/-! ## First names -/

section First
variable {entries : List (String × Form)} {seen : List (String × Nat)} {entry : String × Form}

theorem firstBindings_within (seen : List (String × Nat)) (entries : List (String × Form)) :
    (firstBindings seen entries).Sublist entries := by
  induction entries generalizing seen with
  | nil => exact .slnil
  | cons first rest ih =>
      rw [firstBindings]
      split
      · exact (ih seen).cons first
      · exact (ih _).cons_cons first

/-- What is kept of the entries is each that is the first of its form. -/
theorem firstBindings_mem : entry ∈ firstBindings seen entries ↔
    entry.2.identity ∉ seen ∧
      entries.find? (fun other => other.2.identity == entry.2.identity) = some entry := by
  -- Entries in front are either met before, and then of another form, or they are seen from there on.
  induction entries generalizing seen with
  | nil => simp [firstBindings]
  | cons first rest ih =>
      rw [firstBindings]
      by_cases met : first.2.identity ∈ seen
      · rw [if_pos (by simpa using met), ih]
        refine and_congr_right fun fresh => ?_
        have other : first.2.identity ≠ entry.2.identity := fun same => fresh (same ▸ met)
        rw [List.find?_cons_of_neg (by simpa using other)]
      · rw [if_neg (by simpa using met), List.mem_cons, ih, List.mem_cons, not_or]
        by_cases same : first.2.identity = entry.2.identity
        · rw [List.find?_cons_of_pos (by simpa using same), ← same]
          simp [met, eq_comm]
        · have other : entry ≠ first := fun alike => same (alike ▸ rfl)
          rw [List.find?_cons_of_neg (by simpa using same)]
          simp [other, Ne.symm same]

end First

/-! ## Lists -/

def listingOf (kind : Kind) (entry : String × Form) : Listing := ⟨entry.1, kind, entry.2.summary⟩

theorem make_ok {form : Form} {name : Name} {settings : Settings} {operation : Operation}
    (made : form.make name settings = .ok operation) : operation = form.operation name settings := by
  unfold Form.make at made
  split at made
  · cases refused : form.construct name settings with
    | error failure => simp [refused, Except.map] at made
    | ok _ => simpa [refused, Except.map, eq_comm] using made
  · cases made

theorem list_entries (kind : Kind) {entries : List (String × Form)}
    (makes : ∀ entry ∈ entries, ∃ operation, entry.2.make (.text entry.1) [] = .ok operation) :
    Catalogue.listEntries kind entries = .ok (entries.map (listingOf kind)) := by
  induction entries with
  | nil => rfl
  | cons entry rest ih =>
      obtain ⟨⟨operation, made⟩, later⟩ := List.forall_mem_cons.mp makes
      obtain rfl := make_ok made
      simp only [Catalogue.listEntries, made, ok_bind, ih later]
      rfl

theorem list_entries_made {kind : Kind} {entries : List (String × Form)} {listings : List Listing}
    (told : Catalogue.listEntries kind entries = .ok listings) :
    ∀ entry ∈ entries, ∃ operation, entry.2.make (.text entry.1) [] = .ok operation := by
  induction entries generalizing listings with
  | nil => simp
  | cons entry rest ih =>
      rw [Catalogue.listEntries] at told
      obtain ⟨operation, made, later⟩ := bind_eq_ok.mp told
      obtain ⟨others, listed, _⟩ := bind_eq_ok.mp later
      exact List.forall_mem_cons.mpr ⟨⟨operation, made⟩, ih listed⟩

section Lists
variable {history : List Registration} {kind : Kind} {listing : Listing}

/-- What is listed for a kind after a history. -/
def listed (history : List Registration) (kind : Kind) : List Listing :=
  ((firstBindings [] (bindings history kind)).map (listingOf kind)).mergeSort Listing.le

def FirstName (history : List Registration) (kind : Kind) (name : String) (form : Form) : Prop :=
  (bindings history kind).find? (fun entry => entry.2.identity == form.identity) = some (name, form)

/-- A listing tells of the first of the names that are bound to a form. -/
def TellsFirst (history : List Registration) (listing : Listing) : Prop :=
  ∃ form, FirstName history listing.kind listing.name form ∧ listing.summary = form.summary

theorem first_kept {name : String} {form : Form} :
    (name, form) ∈ firstBindings [] (bindings history kind) ↔ FirstName history kind name form := by
  rw [firstBindings_mem]
  exact and_iff_right List.not_mem_nil

theorem mem_listed :
    listing ∈ listed history kind ↔ listing.kind = kind ∧ TellsFirst history listing := by
  rw [listed, (List.mergeSort_perm _ _).mem_iff, List.mem_map]
  constructor
  · rintro ⟨entry, kept, rfl⟩
    exact ⟨rfl, entry.2, (firstBindings_mem.mp kept).2, rfl⟩
  · obtain ⟨name, ofKind, summary⟩ := listing
    rintro ⟨rfl, form, first, rfl⟩
    exact ⟨(name, form), firstBindings_mem.mpr ⟨List.not_mem_nil, first⟩, rfl⟩

theorem listed_before (history : List Registration) (kind : Kind) :
    (listed history kind).Pairwise Before := by
  refine sorted_before kind ?kinds ?names
  case kinds =>
    intro listing kept
    obtain ⟨entry, _, rfl⟩ := List.mem_map.mp kept
    rfl
  case names =>
    rw [List.map_map]
    exact ((firstBindings_within [] (bindings history kind)).map Prod.fst).nodup
      (bindings_distinct history kind)

theorem bindings_held {entry : String × Form} (bound : entry ∈ bindings history kind) :
    ∃ call ∈ history, call.name = entry.1 ∧ call.form = entry.2 := by
  obtain ⟨name, form⟩ := entry
  obtain ⟨call, last, rfl⟩ := Option.map_eq_some_iff.mp (bindings_mem.mp bound)
  have held := List.mem_filter.mp (List.mem_of_getLast? last)
  exact ⟨call, List.mem_of_mem_filter held.1, by simpa using held.2, rfl⟩

variable {chance : Edit.Chance} {calls : List Registration}

theorem list_made (makes : ∀ kind name form, FirstName (chance.defaults ++ calls) kind name form →
      ∃ operation, form.make (.text name) [] = .ok operation) :
    (registered chance calls).catalogue.list .nothing =
      .ok (listed (chance.defaults ++ calls) .assertion ++
        listed (chance.defaults ++ calls) .transformation) := by
  have kinds (kind : Kind) : (registered chance calls).catalogue.listKind kind =
      .ok (listed (chance.defaults ++ calls) kind) := by
    rw [Catalogue.listKind, registered_entries, list_entries kind]
    · rfl
    · rintro ⟨name, form⟩ kept
      exact makes kind name form (first_kept.mp kept)
  simp only [Catalogue.list, Catalogue.wanted, Value.truthy, kinds, ok_bind]
  rfl

theorem list_makes {listings : List Listing} {name : String} {form : Form}
    (told : (registered chance calls).catalogue.list .nothing = .ok listings)
    (first : FirstName (chance.defaults ++ calls) kind name form) :
    ∃ operation, form.make (.text name) [] = .ok operation := by
  have ofKind : ∃ listings, (registered chance calls).catalogue.listKind kind = .ok listings := by
    simp only [Catalogue.list, Catalogue.wanted, Value.truthy, Bool.not_false, Bool.true_or, ↓reduceIte,
      bind_eq_ok] at told
    obtain ⟨edits, changes, checks, tests, _⟩ := told
    cases kind with
    | transformation => exact ⟨edits, changes⟩
    | assertion => exact ⟨checks, tests⟩
  obtain ⟨listings, told⟩ := ofKind
  rw [Catalogue.listKind, registered_entries] at told
  cases entries : Catalogue.listEntries kind (firstBindings [] (bindings (chance.defaults ++ calls) kind)) with
  | error failure => simp [entries, Except.map] at told
  | ok _ => exact list_entries_made entries _ (first_kept.mpr first)

theorem defaults_ordinary (chance : Edit.Chance) :
    ∀ call ∈ chance.defaults, call.name ≠ "" ∧ call.form.Steady := by
  have ordinary (kind : Kind) : ∀ entry ∈ chance.catalogue.entries kind,
      entry.1 ≠ "" ∧ entry.2.Steady := fun entry listed =>
    ⟨chance.named kind entry listed, chance.steady kind entry listed⟩
  refine List.forall_mem_append.mpr ⟨?edits, ?checks⟩
  case edits => exact List.forall_mem_map.mpr (ordinary .transformation)
  case checks => exact List.forall_mem_map.mpr (ordinary .assertion)

theorem list_ordinary (ordinary : ∀ call ∈ calls, call.name ≠ "" ∧ call.form.Steady) :
    (registered chance calls).catalogue.list .nothing =
      .ok (listed (chance.defaults ++ calls) .assertion ++
        listed (chance.defaults ++ calls) .transformation) := by
  refine list_made fun kind name form first => ?_
  obtain ⟨call, held, rfl, rfl⟩ := bindings_held (List.mem_of_find?_eq_some first)
  obtain ⟨nonempty, steady⟩ :=
    List.forall_mem_append.mpr ⟨defaults_ordinary chance, ordinary⟩ call held
  exact ⟨_, steady.makes _ _ (by simpa using nonempty)⟩

end Lists

/-! ## Catalogues after registrations -/

/-- What is listed after a history: for each kind every form that is bound there, once, under the first
of the names that are bound to it, sorted by kind and name. -/
structure Lists (history : List Registration) (listings : List Listing) : Prop where
  sorted : listings.Pairwise Before
  first : ∀ listing, listing ∈ listings ↔ TellsFirst history listing
  once : ∀ kind name form, lastForm? history kind name = some form →
    ∃! listing, listing ∈ listings ∧ listing.kind = kind ∧ ∃ bound,
      lastForm? history kind listing.name = some bound ∧ bound.identity = form.identity

theorem history_lists (history : List Registration) :
    Lists history (listed history .assertion ++ listed history .transformation) := by
  have first (listing : Listing) :
      listing ∈ listed history .assertion ++ listed history .transformation ↔
        TellsFirst history listing := by
    rw [List.mem_append, mem_listed, mem_listed]
    cases listing.kind <;> simp
  refine ⟨?sorted, first, ?once⟩
  case sorted =>
    refine List.pairwise_append.mpr ⟨listed_before history _, listed_before history _, ?_⟩
    intro test testListed edit editListed
    rw [Before, (mem_listed.mp testListed).1, (mem_listed.mp editListed).1]
    exact Or.inl (by decide)
  case once =>
    intro kind name form bound
    have present : ((bindings history kind).find? fun entry =>
        entry.2.identity == form.identity).isSome := by
      rw [List.find?_isSome]
      exact ⟨(name, form), bindings_mem.mpr bound, by simp⟩
    -- The one listing is that of the first entry with the form, which may be under another name.
    obtain ⟨entry, found⟩ := Option.isSome_iff_exists.mp present
    have same : entry.2.identity = form.identity := by simpa using List.find?_some found
    refine ⟨listingOf kind entry, ⟨?listed, rfl, entry.2, ?bound, same⟩, ?unique⟩
    case listed =>
      refine (first _).mpr ⟨entry.2, ?_, rfl⟩
      rw [FirstName, same]
      exact found
    case bound => exact bindings_mem.mp (List.mem_of_find?_eq_some found)
    case unique =>
      rintro ⟨otherName, _, _⟩ ⟨otherListed, rfl, other, otherBound, otherSame⟩
      obtain ⟨told, foundTold, rfl⟩ := (first _).mp otherListed
      rw [FirstName] at foundTold
      have toldBound := bindings_mem.mp (List.mem_of_find?_eq_some foundTold)
      obtain rfl : other = told := Option.some.inj (otherBound.symm.trans toldBound)
      rw [otherSame] at foundTold
      cases Option.some.inj (found.symm.trans foundTold)
      rfl

end TextChain
