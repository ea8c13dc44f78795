import TextChain.Proofs.Addresses

/-!
Addresses of electronic mail. The check cuts a text at its first at sign and looks for a point inside of
what is behind it. The pattern takes runs of characters that are neither blank nor at signs, and where
there are several points it goes back to one that leaves something in front and something behind. They
accept the same texts, those with one at sign and a point in the right place.
-/

namespace TextChain

variable {chance : Edit.Chance}

/-! ## Grammar -/

def Pointed (domain : List Char) : Prop :=
  ∃ place, 0 < place ∧ place + 1 < domain.length ∧ domain[place]? = some '.'

/-- No white space and one at sign, with something in front of it and a point inside of what is behind. -/
structure Email (text : List Char) : Prop where
  dense : ∀ c ∈ text, isBlank c = false
  single : text.count '@' = 1
  parted : ∃ mailbox domain, text = mailbox ++ '@' :: domain ∧ mailbox ≠ [] ∧ Pointed domain

def isMailChar (c : Char) : Bool := !isBlank c && c != '@'

theorem mailRun_iff {text : List Char} :
    Figures isMailChar text ↔ text ≠ [] ∧ (∀ c ∈ text, isBlank c = false) ∧ '@' ∉ text := by
  simp only [Figures, isMailChar, Bool.and_eq_true, Bool.not_eq_true', bne_iff_ne, forall_and]
  refine and_congr_right fun _ => and_congr_right fun _ => ?_
  exact ⟨fun other sign => other '@' sign rfl, fun free c listed same => free (same ▸ listed)⟩

section Domains
variable {domain : List Char}

theorem pointed_iff_inside : Pointed domain ↔ '.' ∈ (domain.drop 1).dropLast := by
  simp only [List.mem_iff_getElem?, List.getElem?_dropLast, List.length_drop, List.getElem?_drop]
  constructor
  · rintro ⟨place, first, last, point⟩
    obtain ⟨place, rfl⟩ := Nat.exists_eq_add_of_lt first
    refine ⟨place, ?_⟩
    rw [if_pos (by omega)]
    rwa [Nat.zero_add, Nat.add_comm] at point
  · rintro ⟨place, point⟩
    split at point
    next within => exact ⟨1 + place, by omega, by omega, point⟩
    next => cases point

theorem pointed_iff_parts :
    Pointed domain ↔ ∃ host top, domain = host ++ '.' :: top ∧ host ≠ [] ∧ top ≠ [] := by
  constructor
  · rintro ⟨place, first, last, point⟩
    have within : place < domain.length := by omega
    rw [List.getElem?_eq_getElem within, Option.some.injEq] at point
    refine ⟨domain.take place, domain.drop (place + 1), ?_, ?_, ?_⟩
    · rw [← point, ← List.drop_eq_getElem_cons within, List.take_append_drop]
    · exact List.ne_nil_of_length_pos (by rw [List.length_take]; omega)
    · exact List.ne_nil_of_length_pos (by rw [List.length_drop]; omega)
  · rintro ⟨host, top, rfl, some, more⟩
    have front := List.length_pos_iff.mpr some
    have back := List.length_pos_iff.mpr more
    refine ⟨host.length, front, ?_, by simp⟩
    rw [List.length_append, List.length_cons]
    omega

end Domains

section Emails
variable {text mailbox domain : List Char}

theorem single_sign :
    (mailbox ++ '@' :: domain).count '@' = 1 ↔ '@' ∉ mailbox ∧ '@' ∉ domain := by
  rw [List.count_append, List.count_cons_self, ← List.count_eq_zero, ← List.count_eq_zero]
  omega

theorem cut?_sign :
    cut? ['@'] text = some (mailbox, domain) ↔ text = mailbox ++ '@' :: domain ∧ '@' ∉ mailbox := by
  rw [cut?_iff, List.append_cons]
  constructor
  · intro cut
    refine ⟨cut.whole, fun sign => cut.before_free (List.cons_ne_nil _ _) ?_⟩
    obtain ⟨front, back, rfl⟩ := List.append_of_mem sign
    exact ⟨front, back, by simp⟩
  · rintro ⟨rfl, free⟩
    exact firstCut_free free domain

theorem isEmail_cut (front : '@' ∉ mailbox) :
    Checking.isEmail (mailbox ++ '@' :: domain) = true ↔
      (∀ c ∈ mailbox ++ '@' :: domain, isBlank c = false) ∧ mailbox ≠ [] ∧ '@' ∉ domain ∧
        Pointed domain := by
  rw [Checking.isEmail, cut?_sign.mpr ⟨rfl, front⟩, pointed_iff_inside]
  simp only [Bool.and_eq_true, List.all_eq_true, Bool.not_eq_true', List.isEmpty_eq_false_iff,
    List.contains_eq_mem, decide_eq_false_iff_not, decide_eq_true_eq, and_assoc]

theorem isEmail_signed (holds : Checking.isEmail text = true) :
    ∃ mailbox domain, text = mailbox ++ '@' :: domain ∧ '@' ∉ mailbox := by
  unfold Checking.isEmail at holds
  split at holds
  next cut => exact ⟨_, _, cut?_sign.mp cut⟩
  next => cases holds

theorem isEmail_iff : Checking.isEmail text = true ↔ Email text := by
  constructor
  · intro holds
    obtain ⟨mailbox, domain, rfl, front⟩ := isEmail_signed holds
    obtain ⟨dense, some, back, pointed⟩ := (isEmail_cut front).mp holds
    exact ⟨dense, single_sign.mpr ⟨front, back⟩, mailbox, domain, rfl, some, pointed⟩
  · rintro ⟨dense, single, mailbox, domain, rfl, some, pointed⟩
    obtain ⟨front, back⟩ := single_sign.mp single
    exact (isEmail_cut front).mpr ⟨dense, some, back, pointed⟩

/-- The three runs of characters that an address is made from. -/
theorem email_iff_runs :
    Email text ↔ ∃ mailbox host top, text = mailbox ++ '@' :: (host ++ '.' :: top) ∧
      Figures isMailChar mailbox ∧ Figures isMailChar host ∧ Figures isMailChar top := by
  simp only [mailRun_iff]
  constructor
  · rintro ⟨dense, single, mailbox, domain, rfl, some, pointed⟩
    obtain ⟨host, top, rfl, named, more⟩ := pointed_iff_parts.mp pointed
    simp only [List.forall_mem_append, List.forall_mem_cons] at dense
    simp only [single_sign, List.mem_append, List.mem_cons, not_or] at single
    obtain ⟨boxed, _, hosted, _, topped⟩ := dense
    obtain ⟨front, back, _, behind⟩ := single
    exact ⟨mailbox, host, top, rfl, ⟨some, boxed, front⟩, ⟨named, hosted, back⟩, more, topped, behind⟩
  · rintro ⟨mailbox, host, top, rfl, ⟨some, boxed, front⟩, ⟨named, hosted, back⟩, more, topped, behind⟩
    refine ⟨?dense, single_sign.mpr ⟨front, by simp [back, behind]⟩, mailbox, _, rfl, some, ?pointed⟩
    case dense =>
      simp only [List.forall_mem_append, List.forall_mem_cons]
      exact ⟨boxed, rfl, hosted, rfl, topped⟩
    case pointed => exact pointed_iff_parts.mpr ⟨host, top, rfl, named, more⟩

end Emails

/-! ## The pattern -/

def emailSource : String :=
  "[^\\s@]+@[^\\s@]+\\.[^\\s@]+"

def blankOrSign : List Member := [.category .blank false, .point '@'.toNat]

def mailNode : Node := .loop .greedy 1 none (.set true blankOrSign)

def emailPattern : Pattern where
  source := emailSource.toList
  flags := {}
  node := .concat (mailNode :: (letterNodes ['@'] ++ mailNode :: (letterNodes ['.'] ++ [mailNode])))
  groups := 0
  names := []

theorem email_read : Pattern.ofText? {} emailSource.toList = .ok emailPattern := by
  decide +kernel

theorem blankOrSign_accept (c : Char) : (setClass {} true blankOrSign).accepts c = isMailChar c := by
  have cased : ({} : Flags).ignoreCase = false := rfl
  have blank : ((Member.category .blank false).charClass {}).accepts c = isBlank c :=
    Bool.bne_false (isBlank c)
  rw [negatedSet_accepts, setClass_accepts cased]
  simp only [blankOrSign, List.any_cons, List.any_nil, Bool.or_false, point_accepts cased, Bool.not_or,
    blank, isMailChar, bne]

theorem language_mail {text rest : List Char} :
    mailNode.language {} text rest ↔ Figures isMailChar text :=
  figures_set blankOrSign_accept

theorem emailPattern_fits {text : List Char} : emailPattern.fits text = true ↔ Email text := by
  have forward : emailPattern.node.isForward = true := rfl
  have last (text : List Char) :
      (Node.concat [mailNode]).language {} text [] ↔ Figures isMailChar text := language_mail
  rw [Pattern.fits_iff forward, email_iff_runs]
  simp only [emailPattern, @language_concat _ _ _ _ (_ ++ _), language_word, language_mail, last]
  constructor
  · rintro ⟨mailbox, _, rfl, box, _, rfl, host, _, rfl, site, top, rfl, named⟩
    exact ⟨mailbox, host, top, rfl, box, site, named⟩
  · rintro ⟨mailbox, host, top, rfl, box, site, named⟩
    exact ⟨mailbox, _, rfl, box, _, rfl, host, _, rfl, site, top, rfl, named⟩

/-- A text is accepted if it is an address of electronic mail, and this is what the pattern says that the
step stands for. -/
theorem email_addresses_are_accepted (chance : Edit.Chance) (subject : Name) :
    ∃ holds : Bool,
      chance.catalogue.answer .assertion "is_email" [] subject.toValue = .ok (.bool holds) ∧
      (∃ pattern, Pattern.ofText? {} emailSource.toList = .ok pattern ∧
        pattern.fits subject.label.toList = holds) ∧
      (holds = true ↔ Email subject.label.toList) := by
  refine ⟨Checking.isEmail subject.label.toList, ?answered, ?pattern, isEmail_iff⟩
  case answered => exact answer_textCheck Checking.isEmail rfl subject
  case pattern =>
    refine ⟨emailPattern, email_read, ?_⟩
    rw [Bool.eq_iff_iff, emailPattern_fits, isEmail_iff]

example : Checking.isEmail "me@here..there".toList = true ∧
    Checking.isEmail "me@here.".toList = false ∧ Checking.isEmail "me@@here.org".toList = false := by
  decide

end TextChain
