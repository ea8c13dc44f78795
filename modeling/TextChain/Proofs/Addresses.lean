import TextChain.Proofs.LiteralSplits
import TextChain.Proofs.NumeralPatterns

/-!
Addresses in the web: an optional scheme, a host of labels that are parted by points, and optionally a port
and a path. The check takes the host by its characters and splits it at the points, while the pattern
repeats a label with the point behind it and goes back from where it went too far. They accept the same
texts, and of what may be written before a colon and two slashes just the two schemes.
-/

namespace TextChain

variable {chance : Edit.Chance}

/-! ## Grammar -/

inductive Scheme : List Char → Prop
  | absent : Scheme []
  | plain : Scheme "http://".toList
  | secure : Scheme "https://".toList

/-- Two labels or more with points between them. The last one is made from two letters or more, the others
from letters, digits, low lines and hyphens. -/
inductive Host : List Char → Prop
  | labelled {labels : List (List Char)} {top : List Char} (several : labels ≠ [])
      (named : ∀ label ∈ labels, Figures Checking.isHostChar label) (long : 2 ≤ top.length)
      (letters : ∀ c ∈ top, Ascii.isLetter c = true) : Host (['.'].intercalate (labels ++ [top]))

inductive Port : List Char → Prop
  | absent : Port []
  | given {figures : List Char} (digits : Figures Ascii.isDigit figures) : Port (':' :: figures)

inductive Path : List Char → Prop
  | absent : Path []
  | given {line : List Char} (oneLine : '\n' ∉ line) : Path ('/' :: line)

/-- What an address has behind its scheme. -/
inductive Site : List Char → Prop
  | written {host port path : List Char} (named : Host host) (ported : Port port) (led : Path path) :
      Site (host ++ (port ++ path))

inductive Url : List Char → Prop
  | written {scheme site : List Char} (spoken : Scheme scheme) (led : Site site) : Url (scheme ++ site)

/-! ## Recognition -/

def inHost (c : Char) : Bool := Checking.isHostChar c || c == '.'

theorem letter_isHostChar {c : Char} (letter : Ascii.isLetter c = true) : Checking.isHostChar c = true := by
  simp [Checking.isHostChar, Ascii.isWord, Ascii.isLetterOrDigit, letter]

theorem intercalate_dotted (labels : List (List Char)) (top : List Char) :
    ['.'].intercalate (labels ++ [top]) = labels.flatMap (· ++ ['.']) ++ top := by
  induction labels with
  | nil => simp
  | cons label labels ih =>
      rw [List.cons_append, List.intercalate_cons_of_ne_nil (by simp), ih, List.flatMap_cons,
        ← List.append_assoc]

section Hosts
variable {text : List Char}

theorem isHost_parts {labels : List (List Char)} {top : List Char}
    (parts : split ['.'] text = labels ++ [top]) :
    Checking.isHost text = true ↔ labels ≠ [] ∧ (∀ label ∈ labels, Figures Checking.isHostChar label) ∧
      2 ≤ top.length ∧ ∀ c ∈ top, Ascii.isLetter c = true := by
  have several : 1 ≤ labels.length ↔ labels ≠ [] := List.length_pos_iff
  simp [Checking.isHost, parts, several, isRunOf_iff, and_assoc]

theorem isHost_iff : Checking.isHost text = true ↔ Host text := by
  constructor
  · intro holds
    have cuts := split_cuts (List.cons_ne_nil '.' []) text
    rcases List.eq_nil_or_concat (split ['.'] text) with none | ⟨labels, top, parts⟩
    · exact absurd none cuts.nonempty
    · rw [List.concat_eq_append] at parts
      obtain ⟨several, named, long, letters⟩ := (isHost_parts parts).mp holds
      rw [← cuts.joined, parts]
      exact .labelled several named long letters
  · intro host
    cases host with
    | @labelled labels top several named long letters =>
        have free : ∀ part ∈ labels ++ [top], '.' ∉ part := by
          refine List.forall_mem_append.mpr ⟨fun label listed point => ?_, ?_⟩
          · exact absurd ((named label listed).2 '.' point) (by decide)
          · rw [List.forall_mem_singleton]
            exact fun point => absurd (letters '.' point) (by decide)
        have some : labels ++ [top] ≠ [] := List.append_ne_nil_of_right_ne_nil labels (List.cons_ne_nil top [])
        have cuts : CutsInto ['.'] _ (labels ++ [top]) := intercalated_cuts some free
        have parts := cuts.split_eq (List.cons_ne_nil '.' [])
        exact (isHost_parts parts).mpr ⟨several, named, long, letters⟩

/-- A host has only characters of a host, a point among them, and ends in a letter. -/
theorem Host.shape (named : Host text) :
    (∀ c ∈ text, inHost c = true) ∧ '.' ∈ text ∧
      ∃ front c, text = front ++ [c] ∧ Ascii.isLetter c = true := by
  cases named with
  | @labelled labels top several named long letters =>
      rw [intercalate_dotted]
      refine ⟨List.forall_mem_append.mpr ⟨?dotted, ?last⟩, ?pointed, ?ended⟩
      case dotted =>
        intro c within
        obtain ⟨label, listed, inside⟩ := List.mem_flatMap.mp within
        rcases List.mem_append.mp inside with named' | point
        · simp [inHost, (named label listed).2 c named']
        · simp [inHost, List.mem_singleton.mp point]
      case last =>
        intro c within
        simp [inHost, letter_isHostChar (letters c within)]
      case pointed =>
        obtain ⟨label, more, rfl⟩ := List.exists_cons_of_ne_nil several
        simp
      case ended =>
        rcases List.eq_nil_or_concat top with rfl | ⟨front, c, rfl⟩
        · exact absurd long (by decide)
        · rw [List.concat_eq_append] at letters ⊢
          exact ⟨_, c, (List.append_assoc _ _ _).symm, letters c (by simp)⟩

end Hosts

section Ends
variable {text : List Char}

theorem isPath_iff : Checking.isPath text = true ↔ Path text := by
  cases text with
  | nil => exact ⟨fun _ => .absent, fun _ => rfl⟩
  | cons c rest =>
      simp only [Checking.isPath, Bool.and_eq_true, beq_iff_eq, List.all_eq_true, bne_iff_ne]
      constructor
      · rintro ⟨rfl, line⟩
        exact .given fun feed => line '\n' feed rfl
      · intro path
        cases path with
        | given line =>
            refine ⟨rfl, ?_⟩
            rintro c within rfl
            exact line within

theorem Path.first {c : Char} (led : Path text) (first : text.head? = some c) : c = '/' := by
  cases led <;> cases first
  rfl

theorem isAddressEnd_iff :
    Checking.isAddressEnd text = true ↔ ∃ port path, Port port ∧ Path path ∧ text = port ++ path := by
  constructor
  · unfold Checking.isAddressEnd
    split
    next rest =>
      intro holds
      rw [Bool.and_eq_true, Bool.not_eq_true', List.isEmpty_eq_false_iff] at holds
      refine ⟨':' :: rest.takeWhile Ascii.isDigit, rest.dropWhile Ascii.isDigit, .given ⟨holds.1, ?_⟩,
        isPath_iff.mp holds.2, ?_⟩
      · exact fun c => List.mem_takeWhile_imp
      · rw [List.cons_append, List.takeWhile_append_dropWhile]
    next =>
      intro holds
      exact ⟨[], text, .absent, isPath_iff.mp holds, rfl⟩
  · rintro ⟨port, path, ported, led, rfl⟩
    have stop : ∀ c, path.head? = some c → Ascii.isDigit c = false := by
      intro c first
      rw [led.first first]
      rfl
    cases ported with
    | absent =>
        cases led with
        | absent => rfl
        | given line => exact isPath_iff.mpr (.given line)
    | given digits =>
        rw [List.cons_append, Checking.isAddressEnd, digits_taken digits.2 stop, digits_left digits.2 stop,
          isPath_iff.mpr led]
        simpa using digits.1

theorem end_stops {port path : List Char} (ported : Port port) (led : Path path) :
    ∀ c, (port ++ path).head? = some c → inHost c = false := by
  intro c first
  cases ported with
  | absent =>
      rw [led.first first]
      rfl
  | given digits =>
      cases first
      rfl

end Ends

def isSite (text : List Char) : Bool :=
  Checking.isHost (text.takeWhile inHost) && Checking.isAddressEnd (text.dropWhile inHost)

section Sites
variable {text : List Char}

theorem isSite_iff : isSite text = true ↔ Site text := by
  rw [isSite, Bool.and_eq_true, isHost_iff, isAddressEnd_iff]
  constructor
  · rintro ⟨named, port, path, ported, led, behind⟩
    have site := Site.written named ported led
    rwa [← behind, List.takeWhile_append_dropWhile] at site
  · rintro ⟨named, ported, led⟩
    have stop := end_stops ported led
    rw [digits_taken named.shape.1 stop, digits_left named.shape.1 stop]
    exact ⟨named, _, _, ported, led, rfl⟩

theorem Site.pointed (site : Site text) : '.' ∈ text.takeWhile inHost := by
  cases site with
  | written named ported led =>
      rw [digits_taken named.shape.1 (end_stops ported led)]
      exact named.shape.2.1

theorem Site.bare (site : Site text) : Checking.dropScheme text = text := by
  have pointed := site.pointed
  unfold Checking.dropScheme
  split
  next rest plain =>
    rw [dropHead?_iff.mp plain] at pointed
    have taken : ("http://".toList ++ rest).takeWhile inHost = "http".toList := rfl
    rw [taken] at pointed
    exact absurd pointed (by decide)
  next rest _ secure =>
    rw [dropHead?_iff.mp secure] at pointed
    have taken : ("https://".toList ++ rest).takeWhile inHost = "https".toList := rfl
    rw [taken] at pointed
    exact absurd pointed (by decide)
  next => rfl

theorem scheme_dropScheme (text : List Char) :
    ∃ scheme, Scheme scheme ∧ text = scheme ++ Checking.dropScheme text := by
  unfold Checking.dropScheme
  split
  next rest plain => exact ⟨_, .plain, dropHead?_iff.mp plain⟩
  next rest _ secure => exact ⟨_, .secure, dropHead?_iff.mp secure⟩
  next => exact ⟨[], .absent, rfl⟩

theorem isUrl_iff : Checking.isUrl text = true ↔ Url text := by
  have behind : Checking.isUrl text = isSite (Checking.dropScheme text) := rfl
  rw [behind, isSite_iff]
  constructor
  · intro site
    obtain ⟨scheme, spoken, whole⟩ := scheme_dropScheme text
    rw [whole]
    exact .written spoken site
  · rintro ⟨spoken, site⟩
    cases spoken with
    | absent => rwa [List.nil_append, site.bare]
    | plain => exact site
    | secure => exact site

end Sites

/-! ## Schemes -/

theorem first_slash {front back other behind : List Char} (free : '/' ∉ front) (bare : '/' ∉ other)
    (same : front ++ ['/'] ++ back = other ++ ['/'] ++ behind) : front = other := by
  have cut : FirstCut ['/'] _ front back := firstCut_free free back
  rw [same] at cut
  exact (cut.unique (firstCut_free bare behind)).1

/-- What stands in front of the path has no slash and does not end in a colon: a host ends in a letter and
a port in a digit. -/
theorem site_front {host port : List Char} (named : Host host) (ported : Port port) :
    '/' ∉ host ++ port ∧ ∃ front c, host ++ port = front ++ [c] ∧ c ≠ ':' := by
  obtain ⟨inside, _, front, c, rfl, letter⟩ := named.shape
  have bare : '/' ∉ front ++ [c] := fun slash => absurd (inside '/' slash) (by decide)
  cases ported with
  | absent =>
      rw [List.append_nil]
      refine ⟨bare, front, c, rfl, ?_⟩
      rintro rfl
      exact absurd letter (by decide)
  | @given figures digits =>
      have unslashed : '/' ∉ ':' :: figures := by
        rintro (_ | ⟨_, slash⟩)
        exact absurd (digits.2 '/' slash) (by decide)
      refine ⟨fun slash => (List.mem_append.mp slash).elim bare unslashed, ?_⟩
      rcases List.eq_nil_or_concat figures with none | ⟨most, d, rfl⟩
      · exact absurd none digits.1
      · rw [List.concat_eq_append] at digits ⊢
        refine ⟨front ++ [c] ++ ':' :: most, d, by simp, ?_⟩
        rintro rfl
        exact absurd (digits.2 ':' (by simp)) (by decide)

theorem Site.before_slash {front rest : List Char} (site : Site (front ++ ['/'] ++ rest))
    (free : '/' ∉ front) : ∃ most c, front = most ++ [c] ∧ c ≠ ':' := by
  generalize written : front ++ ['/'] ++ rest = text at site
  cases site with
  | @written host port path named ported led =>
      obtain ⟨bare, ended⟩ := site_front named ported
      rw [← List.append_assoc] at written
      cases led with
      | absent =>
          rw [List.append_nil] at written
          rw [← written] at bare
          simp at bare
      | given oneLine => rwa [first_slash free bare (written.trans (List.append_cons _ _ _))]

theorem Url.scheme_known {name rest : List Char} (url : Url (name ++ "://".toList ++ rest))
    (free : '/' ∉ name) : name = "http".toList ∨ name = "https".toList := by
  have whole : name ++ "://".toList ++ rest = name ++ [':'] ++ ['/'] ++ '/' :: rest := by simp
  have front : '/' ∉ name ++ [':'] := by simpa using free
  rw [whole] at url
  generalize written : name ++ [':'] ++ ['/'] ++ '/' :: rest = text at url
  cases url with
  | written spoken site =>
      cases spoken with
      | plain => exact Or.inl (List.append_cancel_right (first_slash front (by decide) written))
      | secure => exact Or.inr (List.append_cancel_right (first_slash front (by decide) written))
      | absent =>
          rw [List.nil_append] at written
          obtain ⟨most, c, ended, other⟩ := (written ▸ site).before_slash front
          exact absurd (List.append_inj_right' ended rfl) (by simpa using other.symm)

/-! ## The pattern -/

def urlSource : String :=
  "(https?://)?([a-zA-Z0-9\\-_]+\\.)+[a-zA-Z]\x7b2,\x7d(:[0-9]+)?(/.*)?"

def letterMembers : List Member := [.between 'a' 'z', .between 'A' 'Z']

def hostMembers : List Member :=
  letterMembers ++ [.between '0' '9', .point '-'.toNat, .point '_'.toNat]

def labelNode : Node :=
  .group 2 (.concat (.loop .greedy 1 none (.set false hostMembers) :: letterNodes ['.']))

def optionalNode (index : Nat) (nodes : List Node) : Node :=
  .loop .greedy 0 (some 1) (.group index (.concat nodes))

def schemeNode : Node :=
  optionalNode 1 (letterNodes "http".toList ++
    .loop .greedy 0 (some 1) (.letter 's'.toNat) :: letterNodes "://".toList)

def portNode : Node :=
  optionalNode 3 (letterNodes [':'] ++ [.loop .greedy 1 none (.set false digitMembers)])

def pathNode : Node :=
  optionalNode 4 (letterNodes ['/'] ++ [.loop .greedy 0 none .any])

def urlPattern : Pattern where
  source := urlSource.toList
  flags := {}
  node := .concat [schemeNode, .loop .greedy 1 none labelNode,
    .loop .greedy 2 none (.set false letterMembers), portNode, pathNode]
  groups := 4
  names := []

theorem url_read : Pattern.ofText? {} urlSource.toList = .ok urlPattern := by
  decide +kernel

section Members
variable (c : Char)

theorem letterMembers_accept :
    (setClass {} false letterMembers).accepts c = Ascii.isLetter c := by
  have cased : ({} : Flags).ignoreCase = false := rfl
  simp only [setClass_accepts cased, letterMembers, List.any_cons, List.any_nil, Bool.or_false,
    between_accepts cased]
  exact Bool.or_comm _ _

theorem hostMembers_accept :
    (setClass {} false hostMembers).accepts c = Checking.isHostChar c := by
  have cased : ({} : Flags).ignoreCase = false := rfl
  have letters := letterMembers_accept c
  rw [setClass_accepts cased] at letters ⊢
  rw [hostMembers, List.any_append, letters]
  simp only [List.any_cons, List.any_nil, Bool.or_false, between_accepts cased, point_accepts cased]
  -- The hyphen and the low line are asked for in the other order.
  rw [Bool.or_comm (c == '-'), ← Bool.or_assoc, ← Bool.or_assoc]
  rfl

end Members

section Parts
variable {text rest : List Char}

theorem language_optional {index : Nat} {nodes : List Node} :
    (optionalNode index nodes).language {} text rest ↔
      text = [] ∨ (Node.concat nodes).language {} text rest :=
  looped_once

theorem language_scheme : schemeNode.language {} text rest ↔ Scheme text := by
  have mark (text rest : List Char) :
      (Node.loop .greedy 0 (some 1) (.letter 's'.toNat)).language {} text rest ↔ text = [] ∨ text = ['s'] :=
    looped_once.trans (or_congr_right language_letter)
  rw [schemeNode, language_optional, language_word]
  simp only [language_ending, mark]
  constructor
  · rintro (rfl | ⟨_, rfl, _, rfl, rfl | rfl⟩)
    · exact .absent
    · exact .plain
    · exact .secure
  · rintro (_ | _ | _)
    · exact Or.inl rfl
    · exact Or.inr ⟨_, rfl, [], rfl, Or.inl rfl⟩
    · exact Or.inr ⟨_, rfl, ['s'], rfl, Or.inr rfl⟩

theorem language_port : portNode.language {} text rest ↔ Port text := by
  rw [portNode, language_optional, language_word]
  constructor
  · rintro (rfl | ⟨figures, rfl, taken⟩)
    · exact .absent
    · exact .given ((figures_set digitMembers_accept).mp taken)
  · rintro (_ | ⟨digits⟩)
    · exact Or.inl rfl
    · exact Or.inr ⟨_, rfl, (figures_set digitMembers_accept).mpr digits⟩

theorem language_path : pathNode.language {} text rest ↔ Path text := by
  rw [pathNode, language_optional, language_word]
  constructor
  · rintro (rfl | ⟨line, rfl, taken⟩)
    · exact .absent
    · exact .given ((looped_any rfl).mp taken).2
  · rintro (_ | ⟨oneLine⟩)
    · exact Or.inl rfl
    · exact Or.inr ⟨_, rfl, (looped_any rfl).mpr ⟨Nat.zero_le _, oneLine⟩⟩

theorem language_labels :
    (Node.loop .greedy 1 none labelNode).language {} text rest ↔
      ∃ labels : List (List Char), labels ≠ [] ∧ (∀ label ∈ labels, Figures Checking.isHostChar label) ∧
        text = labels.flatMap (· ++ ['.']) := by
  have single (text rest : List Char) : labelNode.language {} text rest ↔
      ∃ label, Figures Checking.isHostChar label ∧ text = label ++ ['.'] := by
    rw [labelNode, Node.language, language_ending]
    simp only [figures_set hostMembers_accept, and_comm]
  constructor
  · rintro ⟨count, some, _, repeated⟩
    obtain ⟨labels, rfl, named, whole⟩ := (repeated_parts single).mp repeated
    exact ⟨labels, List.length_pos_iff.mp some, named, whole⟩
  · rintro ⟨labels, several, named, whole⟩
    exact ⟨labels.length, List.length_pos_iff.mpr several, .unbounded _,
      (repeated_parts single).mpr ⟨labels, rfl, named, whole⟩⟩

end Parts

theorem urlPattern_fits {text : List Char} : urlPattern.fits text = true ↔ Url text := by
  have forward : urlPattern.node.isForward = true := rfl
  rw [Pattern.fits_iff forward]
  simp only [urlPattern, @language_concat _ _ _ _ (_ :: _), language_scheme, language_labels,
    looped_set letterMembers_accept, language_port, concat_single, language_path]
  constructor
  · rintro ⟨scheme, _, rfl, spoken, _, _, rfl, ⟨labels, several, named, rfl⟩, top, _, rfl,
      ⟨long, letters⟩, port, path, rfl, ported, led⟩
    have host := Host.labelled several named long letters
    rw [intercalate_dotted] at host
    have url := Url.written spoken (.written host ported led)
    rwa [List.append_assoc] at url
  · rintro ⟨spoken, ⟨⟨several, named, long, letters⟩, ported, led⟩⟩
    refine ⟨_, _, rfl, spoken, _, _, ?_, ⟨_, several, named, rfl⟩, _, _, rfl, ⟨long, letters⟩, _, _, rfl,
      ported, led⟩
    rw [intercalate_dotted, List.append_assoc]

/-- A text is accepted if it is an address, and this is what the pattern says that the step stands for. What
is written with another scheme is no address. -/
theorem addresses_are_accepted (chance : Edit.Chance) (subject : Name) :
    ∃ holds : Bool,
      chance.catalogue.answer .assertion "is_url" [] subject.toValue = .ok (.bool holds) ∧
      (∃ pattern, Pattern.ofText? {} urlSource.toList = .ok pattern ∧
        pattern.fits subject.label.toList = holds) ∧
      (holds = true ↔ Url subject.label.toList) ∧
      (∀ scheme rest : List Char, subject.label.toList = scheme ++ "://".toList ++ rest → '/' ∉ scheme →
        scheme ∉ ["http".toList, "https".toList] → holds = false) := by
  refine ⟨Checking.isUrl subject.label.toList, ?answered, ?pattern, isUrl_iff, ?schemes⟩
  case answered => exact answer_textCheck Checking.isUrl rfl subject
  case pattern =>
    refine ⟨urlPattern, url_read, ?_⟩
    rw [Bool.eq_iff_iff, urlPattern_fits, isUrl_iff]
  case schemes =>
    intro scheme rest written free other
    rw [← Bool.not_eq_true, isUrl_iff, written]
    intro url
    exact other (by simpa using url.scheme_known free)

example : Checking.isUrl "http://localhost.dev:8080".toList = true ∧
    Checking.isUrl "ftp://example.com".toList = false := by decide

end TextChain
