import TextChain.Editing

/-!
What the assertions ask of the characters of a text, and the formats that texts are checked for. The
patterns behind the formats are written out as what they accept; a result about a format also says that
the pattern comes to the same.
-/

namespace TextChain

namespace Checking

/-! ## Letters -/

def isRunOf (test : Char → Bool) (text : List Char) : Bool :=
  !text.isEmpty && text.all test

def lettersOf (text : List Char) : List Char :=
  text.filter Ascii.isLetter

def allUppercase (text : List Char) : Bool :=
  isRunOf Ascii.isUpper (lettersOf text)

def allLowercase (text : List Char) : Bool :=
  isRunOf Ascii.isLower (lettersOf text)

def isEmoticon (c : Char) : Bool :=
  128512 ≤ c.toNat && c.toNat ≤ 128591

/-! ## Numbers -/

def dropSign : List Char → List Char
  | '+' :: rest => rest
  | '-' :: rest => rest
  | text => text

def isExponent : List Char → Bool
  | [] => true
  | e :: rest => (e == 'e' || e == 'E') && isRunOf Ascii.isDigit (dropSign rest)

/-- Digits with an optional point among or after them, or a point with digits after it; then an optional
exponent. -/
def isUnsignedDecimal (text : List Char) : Bool :=
  let whole := text.takeWhile Ascii.isDigit
  match text.dropWhile Ascii.isDigit with
  | '.' :: rest =>
      !(whole.isEmpty && (rest.takeWhile Ascii.isDigit).isEmpty) &&
        isExponent (rest.dropWhile Ascii.isDigit)
  | rest => !whole.isEmpty && isExponent rest

def isDecimal (text : List Char) : Bool :=
  let body := dropSign text
  body == "Infinity".toList || isUnsignedDecimal body

def isRadixInteger : List Char → Bool
  | '0' :: base :: rest =>
      if base == 'x' || base == 'X' then isRunOf Ascii.isHexDigit rest
      else if base == 'o' || base == 'O' then isRunOf Ascii.isOctalDigit rest
      else if base == 'b' || base == 'B' then isRunOf Ascii.isBinaryDigit rest
      else false
  | _ => false

/-- Numbers may stand between white space, and a text without anything else counts as one. -/
def isNumber (text : List Char) : Bool :=
  let figures := trim text
  figures.isEmpty || isDecimal figures || isRadixInteger figures

/-! ## Phones -/

def digitsOf (text : List Char) : List Char :=
  text.filter Ascii.isDigit

/-- Ten digits, or eleven of which the first is a one; everything else is passed over. -/
def isAmericanPhone (text : List Char) : Bool :=
  let figures := digitsOf text
  figures.length == 10 || (figures.length == 11 && startsWith ['1'] figures)

def isUgandanNumber : List Char → Bool
  | '7' :: rest => rest.length == 8 && rest.all Ascii.isDigit
  | _ => false

def isUgandanPhone (text : List Char) : Bool :=
  match dropHead? "+256".toList text, text with
  | some rest, _ => isUgandanNumber rest
  | none, '0' :: rest => isUgandanNumber rest
  | none, _ => false

/-! ## Addresses -/

/-- No white space and one at sign, which something stands before; after it a point that is neither the
first character nor the last. -/
def isEmail (text : List Char) : Bool :=
  match cut? ['@'] text with
  | some (mailbox, domain) =>
      text.all (!isBlank ·) && !mailbox.isEmpty && !domain.contains '@' &&
        (domain.drop 1).dropLast.contains '.'
  | none => false

def isHostChar (c : Char) : Bool :=
  Ascii.isWord c || c == '-'

/-- Labels parted by points; there are two at least, none is empty, and the last has two letters or
more and nothing else. -/
def isHost (text : List Char) : Bool :=
  let labels := split ['.'] text
  match labels.getLast? with
  | some top =>
      2 ≤ labels.length && labels.dropLast.all (isRunOf isHostChar) &&
        2 ≤ top.length && top.all Ascii.isLetter
  | none => false

def isPath : List Char → Bool
  | [] => true
  | c :: rest => c == '/' && rest.all (· != '\n')

def isAddressEnd : List Char → Bool
  | ':' :: rest =>
      !(rest.takeWhile Ascii.isDigit).isEmpty && isPath (rest.dropWhile Ascii.isDigit)
  | text => isPath text

def dropScheme (text : List Char) : List Char :=
  match dropHead? "http://".toList text, dropHead? "https://".toList text with
  | some rest, _ => rest
  | none, some rest => rest
  | none, none => text

def isUrl (text : List Char) : Bool :=
  let address := dropScheme text
  let inHost := fun c => isHostChar c || c == '.'
  isHost (address.takeWhile inHost) && isAddressEnd (address.dropWhile inHost)

def isUrlSafeChar (c : Char) : Bool :=
  Ascii.isWord c || c == '-' || c == '.' || c == '~'

/-! ## Codes and passwords -/

def isBase64Char (c : Char) : Bool :=
  Ascii.isLetterOrDigit c || c == '+' || c == '/'

/-- Groups of four characters, the last of which may be filled up with one or two equals signs. -/
def isBase64 (text : List Char) : Bool :=
  text.length % 4 == 0 && [[], ['='], ['=', '=']].contains (text.dropWhile isBase64Char)

/-- Eight characters or more on one line, with a small letter, a capital, a digit and a character that
is no word character. -/
def isStrongPassword (text : List Char) : Bool :=
  8 ≤ text.length && text.all (· != '\n') && text.any Ascii.isLower && text.any Ascii.isUpper &&
    text.any Ascii.isDigit && text.any (!Ascii.isWord ·)

/-! ## Comparison -/

def isAnagram (text other : List Char) : Bool :=
  Editing.sortChars text == Editing.sortChars other

def isPalindrome (text : List Char) : Bool :=
  let read := (text.filter Ascii.isLetterOrDigit).map Ascii.toLower
  read == read.reverse

/-- Some text stands between the first opening mark and the closing mark that follows it. -/
def isEnclosing (opening closing text : List Char) : Bool :=
  match between? opening closing text with
  | some part => !part.isEmpty
  | none => false

def noTwins : List Char → Bool
  | c :: d :: rest => c != d && noTwins (d :: rest)
  | _ => true

/-- Equal characters become neighbours when the text is sorted. -/
def allDifferent (text : List Char) : Bool :=
  noTwins (Editing.sortChars text)

end Checking

end TextChain
