import Mathlib.Data.List.TakeWhile
import TextChain.Characters

/-!
Trimmed texts. Taking the blanks away from both ends leaves the one part that has blanks only around it and
begins and ends with something else. It does not matter whether some of the blanks were taken away before.
-/

namespace TextChain

def edges (text : List Char) : List Char := text.head?.toList ++ text.getLast?.toList

/-- There are only blanks around the core of a text, and the core does not begin or end with one. -/
structure Trims (blank : Char → Bool) (text core : List Char) : Prop where
  margins : ∃ front back, text = front ++ core ++ back ∧
    (∀ c ∈ front, blank c = true) ∧ ∀ c ∈ back, blank c = true
  edges : ∀ c ∈ edges core, blank c = false

section Trimming
variable {blank : Char → Bool} {text core : List Char}

theorem mem_edges {c : Char} : c ∈ edges text ↔ text.head? = some c ∨ text.getLast? = some c := by
  simp [edges]

theorem edges_within {c : Char} (edge : c ∈ edges text) : c ∈ text := by
  rcases mem_edges.mp edge with first | last
  · exact List.mem_of_head? first
  · exact List.mem_of_getLast? last

theorem dropWhile_first {c : Char} (first : (text.dropWhile blank).head? = some c) :
    blank c = false := by
  have stopped := List.head?_dropWhile_not blank text
  rwa [first] at stopped

theorem dropWhile_stays (first : ∀ c, text.head? = some c → blank c = false) :
    text.dropWhile blank = text := by
  cases text with
  | nil => rfl
  | cons c rest => rw [List.dropWhile_cons_of_neg (by simp [first c rfl])]

theorem trims_bare (bare : ∀ c ∈ edges text, blank c = false) : Trims blank text text :=
  ⟨⟨[], [], by simp, nofun, nofun⟩, bare⟩

theorem trimBy_margins (blank : Char → Bool) (text : List Char) :
    ∃ front back, text = front ++ trimBy blank text ++ back ∧
      (∀ c ∈ front, blank c = true) ∧ ∀ c ∈ back, blank c = true := by
  let started := text.dropWhile blank
  have begun : text = text.takeWhile blank ++ started := List.takeWhile_append_dropWhile.symm
  have ended : started = trimBy blank text ++ (started.reverse.takeWhile blank).reverse := by
    change started = (started.reverse.dropWhile blank).reverse ++ _
    rw [← List.reverse_append, List.takeWhile_append_dropWhile, List.reverse_reverse]
  refine ⟨text.takeWhile blank, (started.reverse.takeWhile blank).reverse, ?_, ?_, ?_⟩
  · rw [List.append_assoc, ← ended]
    exact begun
  · exact fun c => List.mem_takeWhile_imp
  · exact fun c within => List.mem_takeWhile_imp (List.mem_reverse.mp within)

theorem trims_trimBy (blank : Char → Bool) (text : List Char) : Trims blank text (trimBy blank text) := by
  refine ⟨trimBy_margins blank text, ?_⟩
  intro c edge
  rcases mem_edges.mp edge with first | last
  · -- A character that is left in front was there when the front was cut off.
    have kept : (text.dropWhile blank).reverse.dropWhile blank <:+ (text.dropWhile blank).reverse :=
      List.dropWhile_suffix blank
    have started : trimBy blank text <+: text.dropWhile blank := by
      rw [← List.reverse_suffix]
      simpa [trimBy, trimStartBy] using kept
    obtain ⟨back, whole⟩ := started
    apply dropWhile_first
    rw [← whole, List.head?_append, first, Option.some_or]
  · rw [trimBy, trimStartBy, List.getLast?_reverse] at last
    exact dropWhile_first last

/-- The core of a text is what is left when it is trimmed. -/
theorem trimBy_iff : trimBy blank text = core ↔ Trims blank text core := by
  constructor
  · rintro rfl
    exact trims_trimBy blank text
  · rintro ⟨⟨front, back, rfl, before, behind⟩, bare⟩
    rw [trimBy, trimStartBy, trimStartBy, List.append_assoc, List.dropWhile_append_of_pos before]
    cases core with
    | nil =>
        -- Everything is blank, and goes with the front.
        have gone : back.dropWhile blank = [] := List.dropWhile_eq_nil_iff.mpr behind
        rw [List.nil_append, gone]
        rfl
    | cons c rest =>
        have started : (c :: rest ++ back).dropWhile blank = c :: rest ++ back :=
          dropWhile_stays fun _ first => bare _ (mem_edges.mpr (Or.inl first))
        have ended : (c :: rest).reverse.dropWhile blank = (c :: rest).reverse := by
          apply dropWhile_stays
          intro d last
          rw [List.head?_reverse] at last
          exact bare d (mem_edges.mpr (Or.inr last))
        have blanks : ∀ d ∈ back.reverse, blank d = true :=
          fun d within => behind d (List.mem_reverse.mp within)
        rw [started, List.reverse_append, List.dropWhile_append_of_pos blanks, ended,
          List.reverse_reverse]

theorem Trims.after {first : Char → Bool} {middle : List Char} (trims : Trims first text middle)
    (rest : Trims blank middle core) (within : ∀ c ∈ text, first c = true → blank c = true) :
    Trims blank text core := by
  obtain ⟨⟨front, back, rfl, before, behind⟩, _⟩ := trims
  obtain ⟨⟨more, last, rfl, started, ended⟩, bare⟩ := rest
  refine ⟨⟨front ++ more, last ++ back, by simp, ?_, ?_⟩, bare⟩
  · intro c listed
    rcases List.mem_append.mp listed with outer | inner
    · exact within c (by simp [outer]) (before c outer)
    · exact started c inner
  · intro c listed
    rcases List.mem_append.mp listed with inner | outer
    · exact ended c inner
    · exact within c (by simp [outer]) (behind c outer)

theorem trimBy_before {first : Char → Bool} (within : ∀ c ∈ text, first c = true → blank c = true) :
    trimBy blank (trimBy first text) = trimBy blank text :=
  (trimBy_iff.mpr ((trims_trimBy first text).after (trims_trimBy blank _) within)).symm

end Trimming

end TextChain
