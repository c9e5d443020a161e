import TokenDesk.Text.Hex

/-! The written forms of texts in a TOML document.

A text stands between double quotes, with escapes, or between single quotes,
as it is; tripled quotes of either kind may span lines. Writing takes the
first form that needs no escape but that of a tab, and escapes only what has to be.
-/

set_option autoImplicit false

namespace TokenDesk.Toml

/-- A control character that no form holds as it is. -/
def isControl (c : Char) : Bool :=
  (c.toNat < 0x20 && c != '\t' && c != '\n') || c.toNat == 0x7f

def isPrintable (c : Char) : Bool :=
  c == '\t' || (0x20 ≤ c.toNat && c.toNat != 0x7f)

def hasTriple (q : Char) : List Char → Bool
  | a :: b :: c :: rest => (a == q && b == q && c == q) || hasTriple q (b :: c :: rest)
  | _ => false

def fourDigits (n : Nat) : List Char :=
  [n / 4096 % 16, n / 256 % 16, n / 16 % 16, n % 16].map fun d => (Text.Hex.digit d).toUpper

def escape? (c : Char) : Option (List Char) :=
  if c = '\x08' then some ['\\', 'b']
  else if c = '\t' then some ['\\', 't']
  else if c = '\x0c' then some ['\\', 'f']
  else if c = '\r' then some ['\\', 'r']
  else if c = '\\' then some ['\\', '\\']
  else if isControl c then some ('\\' :: 'u' :: fourDigits c.toNat)
  else none

def escapeLine (text : List Char) : List Char :=
  text.flatMap fun c =>
    if c = '"' then ['\\', '"'] else if c = '\n' then ['\\', 'n'] else (escape? c).getD [c]

/-- Escaped text that may span lines; `quotes` double quotes stand right before it. -/
def escapeBlock (quotes : Nat) : List Char → List Char
  | [] => []
  | c :: rest =>
    if c = '"' then
      if quotes = 2 then '\\' :: '"' :: escapeBlock 0 rest else '"' :: escapeBlock (quotes + 1) rest
    else (escape? c).getD [c] ++ escapeBlock 0 rest

def between (quotes : List Char) (text : List Char) : List Char :=
  quotes ++ text ++ quotes

def block (quotes : List Char) (written text : List Char) : List Char :=
  between quotes (if '\n' ∈ text then '\n' :: written else written)

def tripleDouble : List Char := ['"', '"', '"']
def tripleSingle : List Char := ['\x27', '\x27', '\x27']

def writeText (text : List Char) : List Char :=
  let hasControl := text.any isControl
  let hasBreak := decide ('\n' ∈ text)
  let hasBackslash := decide ('\\' ∈ text)
  if !hasControl && !hasBackslash && !hasBreak && decide ('"' ∉ text) then
    between ['"'] (escapeLine text)
  else if !hasControl && !hasBreak && decide ('\x27' ∉ text) then between ['\x27'] text
  else if !hasControl && !hasBackslash && !hasTriple '"' text then
    block tripleDouble (escapeBlock 0 text) text
  else if !hasControl && !hasTriple '\x27' text then block tripleSingle text text
  else if hasBreak then block tripleDouble (escapeBlock 0 text) text
  else between ['"'] (escapeLine text)

def isBare (c : Char) : Bool :=
  c.isAlphanum || c == '-' || c == '_'

def writeKey (text : List Char) : List Char :=
  let hasControl := text.any fun c => isControl c || c == '\n'
  if !text.isEmpty && text.all isBare then text
  else if !hasControl && decide ('\\' ∉ text) && decide ('"' ∉ text) then
    between ['"'] (escapeLine text)
  else if !hasControl && decide ('\x27' ∉ text) then between ['\x27'] text
  else between ['"'] (escapeLine text)

/-! Reading. Each reader takes the text behind the opening quotes, and returns the text
they quote and what follows the closing ones. -/

def hexNumber? (ds : List Char) : Option Nat :=
  ds.foldlM (fun n c => (Text.Hex.digit? c).map fun d => n * 16 + d) 0

/-- The character with a code point, which must not be half of a surrogate pair. -/
def charOf? (n : Nat) : Option Char :=
  if n.isValidChar then some (Char.ofNat n) else none

def shortEscape? (c : Char) : Option Char :=
  if c = 'b' then some '\x08'
  else if c = 't' then some '\t'
  else if c = 'n' then some '\n'
  else if c = 'f' then some '\x0c'
  else if c = 'r' then some '\r'
  else if c = '"' then some '"'
  else if c = '\\' then some '\\'
  else none

/-- The character of an escape behind its backslash, and what follows it. -/
def readEscape : List Char → Option (Char × List Char)
  | 'u' :: a :: b :: c :: d :: rest =>
    ((hexNumber? [a, b, c, d]).bind charOf?).map fun character => (character, rest)
  | 'U' :: a :: b :: c :: d :: e :: f :: g :: h :: rest =>
    ((hexNumber? [a, b, c, d, e, f, g, h]).bind charOf?).map fun character => (character, rest)
  | c :: rest => (shortEscape? c).map fun character => (character, rest)
  | [] => none

theorem length_of_readEscape {text rest : List Char} {c : Char}
    (h : readEscape text = some (c, rest)) : rest.length < text.length := by
  unfold readEscape at h
  split at h
  · simp only [Option.map_eq_some_iff, Prod.mk.injEq] at h
    obtain ⟨_, _, _, same⟩ := h
    simp [← same]
    omega
  · simp only [Option.map_eq_some_iff, Prod.mk.injEq] at h
    obtain ⟨_, _, _, same⟩ := h
    simp [← same]
    omega
  · simp only [Option.map_eq_some_iff, Prod.mk.injEq] at h
    obtain ⟨_, _, _, same⟩ := h
    simp [← same]
  · simp at h

def readBasic (text : List Char) : Option (List Char × List Char) :=
  match text with
  | [] => none
  | '"' :: rest => some ([], rest)
  | '\\' :: rest =>
    match _h : readEscape rest with
    | none => none
    | some (c, rest) => (readBasic rest).map fun (read, after) => (c :: read, after)
  | c :: rest =>
    if isPrintable c then (readBasic rest).map fun (read, after) => (c :: read, after) else none
termination_by text.length
decreasing_by
  · have := length_of_readEscape _h
    simp only [List.length_cons]
    omega
  · simp

def readLiteral : List Char → Option (List Char × List Char)
  | [] => none
  | '\x27' :: rest => some ([], rest)
  | c :: rest =>
    if isPrintable c then (readLiteral rest).map fun (read, after) => (c :: read, after) else none

def afterBlankLines : List Char → List Char
  | '\r' :: '\n' :: rest => afterBlankLines rest
  | c :: rest => if c = ' ' ∨ c = '\t' ∨ c = '\n' then afterBlankLines rest else c :: rest
  | [] => []

theorem length_afterBlankLines_le (text : List Char) :
    (afterBlankLines text).length ≤ text.length := by
  fun_induction afterBlankLines text with
  | case1 rest ih => simp only [List.length_cons]; omega
  | case2 c rest _ _ ih => simp only [List.length_cons]; omega
  | case3 => exact Nat.le_refl _
  | case4 => exact Nat.le_refl _

/-- What follows the white space that a backslash at the end of a line removes: the rest of
that line, which must be blank, and the blanks and line ends after it. -/
def afterGap? : List Char → Option (List Char)
  | '\n' :: rest => some (afterBlankLines rest)
  | '\r' :: '\n' :: rest => some (afterBlankLines rest)
  | c :: rest => if c = ' ' ∨ c = '\t' then afterGap? rest else none
  | [] => none

theorem length_of_afterGap? {text rest : List Char} (h : afterGap? text = some rest) :
    rest.length < text.length := by
  fun_induction afterGap? text with
  | case1 after =>
    have := length_afterBlankLines_le after
    cases h
    simp only [List.length_cons]
    omega
  | case2 after =>
    have := length_afterBlankLines_le after
    cases h
    simp only [List.length_cons]
    omega
  | case3 c after _ _ _ ih =>
    have := ih h
    simp only [List.length_cons]
    omega
  | case4 => cases h
  | case5 => cases h

/-- A text between tripled double quotes. Line ends are read as line feeds, and up to two
quotes may stand right before the closing ones. -/
def readBlock (text : List Char) : Option (List Char × List Char) :=
  match text with
  | '"' :: '"' :: '"' :: '"' :: '"' :: rest => some (['"', '"'], rest)
  | '"' :: '"' :: '"' :: '"' :: rest => some (['"'], rest)
  | '"' :: '"' :: '"' :: rest => some ([], rest)
  | '\\' :: rest =>
    match _gap : afterGap? rest with
    | some after => readBlock after
    | none =>
      match _escape : readEscape rest with
      | none => none
      | some (c, after) => (readBlock after).map fun (read, after) => (c :: read, after)
  | '\r' :: '\n' :: rest => (readBlock rest).map fun (read, after) => ('\n' :: read, after)
  | c :: rest =>
    if isPrintable c ∨ c = '\n' then
      (readBlock rest).map fun (read, after) => (c :: read, after)
    else none
  | [] => none
termination_by text.length
decreasing_by
  · have := length_of_afterGap? _gap
    simp only [List.length_cons]
    omega
  · have := length_of_readEscape _escape
    simp only [List.length_cons]
    omega
  · simp only [List.length_cons]
    omega
  · simp

def readLiteralBlock : List Char → Option (List Char × List Char)
  | '\x27' :: '\x27' :: '\x27' :: '\x27' :: '\x27' :: rest => some (['\x27', '\x27'], rest)
  | '\x27' :: '\x27' :: '\x27' :: '\x27' :: rest => some (['\x27'], rest)
  | '\x27' :: '\x27' :: '\x27' :: rest => some ([], rest)
  | '\r' :: '\n' :: rest =>
    (readLiteralBlock rest).map fun (read, after) => ('\n' :: read, after)
  | c :: rest =>
    if isPrintable c ∨ c = '\n' then
      (readLiteralBlock rest).map fun (read, after) => (c :: read, after)
    else none
  | [] => none

def withoutBreak : List Char → List Char
  | '\n' :: rest => rest
  | '\r' :: '\n' :: rest => rest
  | text => text

def readText : List Char → Option (List Char × List Char)
  | '"' :: '"' :: '"' :: rest => readBlock (withoutBreak rest)
  | '"' :: rest => readBasic rest
  | '\x27' :: '\x27' :: '\x27' :: rest => readLiteralBlock (withoutBreak rest)
  | '\x27' :: rest => readLiteral rest
  | _ => none

def readKey : List Char → Option (List Char × List Char)
  | '"' :: rest => readBasic rest
  | '\x27' :: rest => readLiteral rest
  | text =>
    let key := text.takeWhile isBare
    if key.isEmpty then none else some (key, text.drop key.length)

end TokenDesk.Toml
