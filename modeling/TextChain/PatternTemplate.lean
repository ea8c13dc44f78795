import TextChain.Pattern

/-!
Replacement templates. A template is text in which a backslash refers to a group, by number or by
name, or stands for a control character. It is read against a pattern, which has to have the groups.
-/

namespace TextChain

inductive TemplatePart where
  | literal (text : List Char)
  | group (index : Nat)
  deriving DecidableEq, Repr

abbrev Template := List TemplatePart

inductive TemplateFault where
  | malformed (fault : Fault)
  | unknownName (name : List Char)
  deriving Repr

/-- Puts a part in front of others. Literals that meet become one. -/
def TemplatePart.onto (part : TemplatePart) (parts : Template) : Template :=
  match part, parts with
  | .literal text, .literal more :: rest => .literal (text ++ more) :: rest
  | part, parts => part :: parts

def mergeLiterals (parts : List TemplatePart) : Template :=
  parts.foldr TemplatePart.onto []

/-! ## Reading -/

def malformed {α : Type} (result : Except Fault α) : Except TemplateFault α :=
  result.mapError .malformed

def templateGroup (pattern : Pattern) (index back : Nat) (reading : Reading) :
    Except TemplateFault TemplatePart :=
  if pattern.groups < index then malformed (reading.fault (.noSuchGroup index) back)
  else .ok (.group index)

def readTemplateName (pattern : Pattern) (reading : Reading) :
    Except TemplateFault (TemplatePart × Reading) := do
  let (opened, reading) ← malformed (reading.accept '<')
  if !opened then malformed (reading.fault (.missing "<"))
  else
    let (name, reading) ← malformed (reading.nameUpTo '>' "group name")
    let back := name.length + 1
    if isName name then
      match pattern.names.find? (·.1 == name) with
      | some (_, index) => .ok (.group index, reading)
      | none => .error (.unknownName name)
    else
      match groupNumber? name with
      | some index =>
          let part ← templateGroup pattern index back reading
          .ok (part, reading)
      | none => malformed (reading.fault (.badGroupName name) back)

def literalCode (code : Nat) : TemplatePart := .literal [Char.ofNat code]

/-- A number: a group of up to two digits, or an octal escape if three octal digits follow. -/
def readTemplateNumber (pattern : Pattern) (c : Char) (reading : Reading) :
    Except TemplateFault (TemplatePart × Reading) := do
  let (second, reading) ← malformed (reading.takeWhile Ascii.isDigit 1)
  match second with
  | [] =>
      let part ← templateGroup pattern (baseValue 10 [c]) 1 reading
      .ok (part, reading)
  | d :: _ =>
      let (third, reading) ←
        if Ascii.isOctalDigit c && Ascii.isOctalDigit d then
          malformed (reading.takeWhile Ascii.isOctalDigit 1)
        else .ok ([], reading)
      match third with
      | [] =>
          let part ← templateGroup pattern (baseValue 10 [c, d]) 2 reading
          .ok (part, reading)
      | e :: _ =>
          let code := baseValue 8 [c, d, e]
          if 255 < code then malformed (reading.fault (.octalTooLarge ['\\', c, d, e]) 4)
          else .ok (literalCode code, reading)

/-- What a backslash and the character after it stand for. An escape of a mark stands for itself, with
the backslash. -/
def readTemplateEscape (pattern : Pattern) (c : Char) (reading : Reading) :
    Except TemplateFault (TemplatePart × Reading) :=
  if c = 'g' then readTemplateName pattern reading
  else if c = '0' then do
    let (figures, moved) ← malformed (readOctalRest c reading)
    .ok (literalCode (baseValue 8 figures % 256), moved)
  else if Ascii.isDigit c then readTemplateNumber pattern c reading
  else
    match controlOf? c with
    | some code => .ok (literalCode code, reading)
    | none =>
        if Ascii.isLetter c then malformed (reading.fault (.badEscape ['\\', c]) 2)
        else .ok (.literal ['\\', c], reading)

def readParts (pattern : Pattern) : Nat → List TemplatePart → Reading →
    Except TemplateFault (List TemplatePart)
  | 0, done, _ => .ok done.reverse
  | fuel + 1, done, reading => do
      let (token, reading) ← malformed reading.take
      match token with
      | none => .ok done.reverse
      | some .dangling => malformed (reading.fault .danglingBackslash)
      | some (.plain c) => readParts pattern fuel (.literal [c] :: done) reading
      | some (.escaped c) =>
          let (part, reading) ← readTemplateEscape pattern c reading
          readParts pattern fuel (part :: done) reading

inductive TemplateError where
  | malformed (error : PatternError)
  | unknownName (name : List Char)
  deriving Repr

namespace Template

def read (pattern : Pattern) (binary : Bool) (source : List Char) :
    Except TemplateError Template :=
  let read : Except TemplateFault (List TemplatePart) := do
    let reading ← TextChain.malformed (Reading.settle { ahead := tokens source, binary })
    readParts pattern (source.length + 1) [] reading
  match read with
  | .ok parts => .ok (mergeLiterals parts)
  | .error (.malformed (fault, place)) => .error (.malformed { fault, place, source, binary })
  | .error (.unknownName name) => .error (.unknownName name)

/-- The text of a template for a hit. A group that took no part in the hit is empty. -/
def expand (template : Template) (hit : Hit) : List Char :=
  template.flatMap fun
    | .literal text => text
    | .group index => (hit.capture? index).getD []

end Template

end TextChain
