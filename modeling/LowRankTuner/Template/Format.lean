/-
  LowRankTuner/Template/Format.lean
  =================================
  Format strings with percent conversions, for the `format` filter.

  A conversion is `%`, an optional key in parentheses, flags (`-` aligns left, `+` and a
  blank sign positive numbers, `0` pads numbers with zeros, `#` marks the base of an
  integer and keeps the point of a float), an optional width, an optional precision after
  `.`, and a conversion character:

  * `s` prints the value, `r` its representation;
  * `d` and `i` print an integer, `o`, `x`, `X` in base 8 and 16, `c` the character of a
    code point or a one-character string; integers ignore the precision;
  * `f`, `F`, `e`, `E`, `g`, `G` print a number with fixed places, with an exponent, or
    whichever is shorter, six places unless the precision says otherwise;
  * `%%`, right after the `%`, prints a percent sign.

  The format string is read from left to right, and each conversion takes its argument
  and is applied before the next one is read, so the first fault met is the one reported.
  A conversion takes the next argument, or with a key the field of that name in the first
  argument, which must then be a mapping; a missing field is a missing argument.

  An argument is an integer (booleans count as 0 and 1, and print as `True` and `False`
  with `s`), a float, or else the text it prints.  Numbers printed with `s` pad with zeros
  when asked and ignore sign flags; a float printed with `s` shows as many significant
  digits as the precision says (six by default) and keeps a `.0` when it shows none but
  digits, while text is cut to the precision.  Integers under a float conversion are
  printed exactly, not through a float.  Widths count bytes, but those of `c` count
  characters.  Failures name byte offsets: of the conversion character, or of where it is
  missing.

  A format string marked safe escapes the text of every argument that is not safe, and
  refuses `c`.
-/
import LowRankTuner.Template.Repr
import LowRankTuner.Decimal.Fixed
import LowRankTuner.Decimal.Shortest
import LowRankTuner.Decimal.Read

namespace LowRankTuner.Template

namespace Format

/-! ## 1. Reading a format string -/

/-- A conversion of a format string; `offset` is the byte offset of its conversion
character. -/
structure Spec where
  key : Option String := none
  leftAlign : Bool := false
  plus : Bool := false
  blank : Bool := false
  zero : Bool := false
  alternate : Bool := false
  width : Nat := 0
  precision : Option Nat := none
  conversion : Char := 's'
  offset : Nat := 0

/-- The largest width or precision, that of an unsigned 64-bit count. -/
def countLimit : Nat := Nat.pow 2 64 - 1

/-- The failure of a conversion whose character is missing where `offset` points. -/
def incomplete (offset : Nat) : Error :=
  .invalid ("incomplete format spec at offset " ++ toString offset ++
    "; missing conversion type")

/-- The failure of an unknown conversion character. -/
def badConversion (c : Char) (offset : Nat) : Error :=
  .invalid ("invalid conversion type '" ++ c.toString ++ "' in format spec at offset " ++
    toString offset)

/-- The failure of a width or precision too large for a count. -/
def badInteger (offset : Nat) : Error :=
  .invalid ("invalid integer in the format string at offset " ++ toString offset)

/-- The failure of a key in parentheses that is never closed. -/
def badKey : Error := .invalid "incomplete format key"

/-- The flags at the start of a conversion, what follows them, and how many there were. -/
def readFlags (s : Spec) : List Char → Spec × List Char × Nat
  | '-' :: rest => bump (readFlags { s with leftAlign := true } rest)
  | '+' :: rest => bump (readFlags { s with plus := true } rest)
  | ' ' :: rest => bump (readFlags { s with blank := true } rest)
  | '0' :: rest => bump (readFlags { s with zero := true } rest)
  | '#' :: rest => bump (readFlags { s with alternate := true } rest)
  | cs => (s, cs, 0)
where
  bump (r : Spec × List Char × Nat) : Spec × List Char × Nat := (r.1, r.2.1, r.2.2 + 1)

/-- The decimal digits at the start: their value (0 without digits), the rest, and how
many there were. -/
def readDigits (cs : List Char) : Nat × List Char × Nat :=
  let (ds, rest) := cs.span Char.isDigit
  (Decimal.digitsValue ds, rest, ds.length)

/-- The number of bytes of characters in UTF-8. -/
def byteCount (cs : List Char) : Nat := (cs.map Char.utf8Size).foldr (· + ·) 0

/-- The conversion characters. -/
def conversions : List Char := "srdioxXceEfFgG".toList

/-- The conversion after a `%`: `cs` follows the `%`, whose next byte is at `pos`.  Gives
the conversion, what follows it, and the byte offset there. -/
def readSpec (cs : List Char) (pos : Nat) : Except Error (Spec × List Char × Nat) := do
  let (key, cs, pos) ← match cs with
    | '(' :: rest =>
      match rest.span (· != ')') with
      | (k, ')' :: more) => pure (some (String.ofList k), more, pos + byteCount k + 2)
      | _ => throw badKey
    | cs => pure (none, cs, pos)
  let (spec, cs, n) := readFlags { key } cs
  let (width, cs, n') := readDigits cs
  let pos := pos + n + n'
  if width > countLimit then throw (badInteger pos)
  let (precision, cs, pos) ← match cs with
    | '.' :: rest =>
      let (p, rest, n) := readDigits rest
      if p > countLimit then throw (badInteger (pos + 1 + n))
      pure (some p, rest, pos + 1 + n)
    | cs => pure (none, cs, pos)
  match cs with
  | [] => throw (incomplete pos)
  | c :: rest =>
    if conversions.contains c then
      pure ({ spec with width, precision, conversion := c, offset := pos }, rest,
        pos + c.utf8Size)
    else throw (badConversion c pos)

/-! ## 2. Printing numbers -/

/-- Text padded with blanks to the width of a conversion in bytes, on the right when it
aligns left. -/
def pad (s : Spec) (text : String) : String :=
  let fill := String.ofList (List.replicate (s.width - text.utf8ByteSize) ' ')
  if s.leftAlign then text ++ fill else fill ++ text

/-- A number's sign, base mark and digits padded to the width: zeros go between the mark
and the digits when the conversion asks for them and does not align left. -/
def padNumber (s : Spec) (sign digits : String) : String :=
  if s.zero && !s.leftAlign then
    sign ++ String.ofList (List.replicate (s.width - sign.length - digits.length) '0') ++
      digits
  else pad s (sign ++ digits)

/-- The sign written before a number: `+` wins over a blank. -/
def signText (s : Spec) (neg : Bool) : String :=
  if neg then "-" else if s.plus then "+" else if s.blank then " " else ""

/-- The digits of a natural in a base, in lower case. -/
def digitsIn (base n : Nat) : String := String.ofList (Nat.toDigits base n)

/-- The mark of the base an alternate conversion writes before an integer. -/
def baseMark (s : Spec) : String :=
  if !s.alternate then ""
  else match s.conversion with
    | 'o' => "0o"
    | 'x' => "0x"
    | 'X' => "0X"
    | _ => ""

/-- An integer under a conversion of integers; the precision plays no part. -/
def intText (s : Spec) (n : Int) : String :=
  let mag := n.natAbs
  let digits := match s.conversion with
    | 'o' => digitsIn 8 mag
    | 'x' => digitsIn 16 mag
    | 'X' => (digitsIn 16 mag).toUpper
    | _ => digitsIn 10 mag
  let sign := signText s (n < 0) ++ baseMark s
  padNumber s sign digits

/-- `m · 2^q` with `p + 1` significant digits: the digits as a natural and the decimal
exponent of the first one. -/
def significant (m : Nat) (q : Int) (p : Nat) : Nat × Int :=
  let (num, den) := scaleTwo m 1 q
  let e := Decimal.floorLog10 num den
  let k : Int := (p : Int) - e
  let (a, b) := if 0 ≤ k then (num * Nat.pow 10 k.toNat, den) else (num, den * Nat.pow 10 k.natAbs)
  let units := roundHalfEven a b
  if units ≥ Nat.pow 10 (p + 1) then (units / 10, e + 1) else (units, e)

/-- Digits with a point after the first: `d.ddd`. -/
def pointAfterFirst (units p : Nat) (alternate : Bool) : String :=
  let whole := digitsIn 10 (units / Nat.pow 10 p)
  if p == 0 then whole ++ (if alternate then "." else "")
  else whole ++ "." ++ Decimal.padDigits (units % Nat.pow 10 p) p

/-- An exponent as `e+XX`, two digits at least. -/
def exponentText (mark : Char) (e : Int) : String :=
  mark.toString ++ (if e < 0 then "-" else "+") ++ Decimal.padDigits e.natAbs 2

/-- The magnitude `m · 2^q` with an exponent and `p` places. -/
def scientific (mark : Char) (m : Nat) (q : Int) (p : Nat) (alternate : Bool) : String :=
  if m == 0 then pointAfterFirst 0 p alternate ++ exponentText mark 0
  else
    let (units, e) := significant m q p
    pointAfterFirst units p alternate ++ exponentText mark e

/-- The magnitude `m · 2^q` with `p` places. -/
def fixed (m : Nat) (q : Int) (p : Nat) (alternate : Bool) : String :=
  Decimal.unitsText (Decimal.roundedUnits m q p) p ++ (if p == 0 && alternate then "." else "")

/-- Trailing zeros of a fraction removed, and the point when nothing follows it. -/
def dropTrailingZeros (s : String) : String :=
  if s.contains '.' then
    let cs := (s.toList.reverse.dropWhile (· == '0'))
    let cs := match cs with
      | '.' :: rest => rest
      | cs => cs
    String.ofList cs.reverse
  else s

/-- The magnitude `m · 2^q` in the shorter of the two notations with `p` significant
digits.  An alternate conversion keeps the trailing zeros, but adds no point that no digit
follows. -/
def general (mark : Char) (m : Nat) (q : Int) (p : Nat) (alternate : Bool) : String :=
  let p := if p == 0 then 1 else p
  let x : Int := if m == 0 then 0 else (significant m q (p - 1)).2
  if x < p && -4 ≤ x then
    let t := fixed m q (p - 1 - x).toNat false
    if alternate then t else dropTrailingZeros t
  else
    let t := scientific mark m q (p - 1) false
    if alternate then t
    else
      match t.splitOn mark.toString with
      | [mant, exp] => dropTrailingZeros mant ++ mark.toString ++ exp
      | _ => t

/-- A number, given as the class of a float, under a conversion of floats.  NaN has no
sign; NaN and the infinities are padded like any number. -/
def numberText (s : Spec) (x : FloatClass) : String :=
  let upper := s.conversion.isUpper
  let p := s.precision.getD 6
  match x with
  | .nan => padNumber s "" (if upper then "NAN" else "nan")
  | .infinite neg => padNumber s (signText s neg) (if upper then "INF" else "inf")
  | .finite neg m q =>
    let body := match s.conversion with
      | 'e' => scientific 'e' m q p s.alternate
      | 'E' => scientific 'E' m q p s.alternate
      | 'g' => general 'e' m q p s.alternate
      | 'G' => general 'E' m q p s.alternate
      | _ => fixed m q p s.alternate
    padNumber s (signText s neg) body

/-- A float under a conversion of floats. -/
def floatText (s : Spec) (x : Float) : String := numberText s (FloatClass.ofFloat x)

/-- An integer under a conversion of floats, from its exact value; the alternate form
plays no part in the general notation. -/
def exactText (s : Spec) (n : Int) : String :=
  let s := if s.conversion == 'g' || s.conversion == 'G' then { s with alternate := false }
    else s
  numberText s (.finite (n < 0) n.natAbs 0)

/-- A float as `s` prints it: the general notation with the precision (six digits by
default), and `.0` after a result of digits only. -/
def floatWord (x : Float) (precision : Option Nat) : String :=
  let t := numberText { conversion := 'g', precision } (FloatClass.ofFloat x)
  if t.all Char.isDigit then t ++ ".0" else t

/-- The text of a number padded as a number: a leading minus sign goes before the zeros. -/
def padSigned (s : Spec) (t : String) : String :=
  match t.toList with
  | '-' :: rest => padNumber s "-" (String.ofList rest)
  | _ => padNumber s "" t

/-- Text padded with blanks to the width of a conversion counted in characters. -/
def padChars (s : Spec) (text : String) : String :=
  let fill := String.ofList (List.replicate (s.width - text.length) ' ')
  if s.leftAlign then text ++ fill else fill ++ text

/-! ## 3. Applying conversions -/

/-- An argument as a conversion sees it: an integer with the text `s` prints for it, a
float, or the text of any other value. -/
inductive Arg where
  | int (n : Int) (shown : String)
  | float (x : Float)
  | text (s : String)

/-- The argument a value gives: booleans are the integers 0 and 1; `repr` asks for the
representation of other values rather than their text, and `escape`, present for a safe
format string, escapes text that is not safe. -/
def Arg.of (escape : Option (String → String)) (repr : Bool) (v : Value) : Arg :=
  match v with
  | .int n => .int n (toString n)
  | .bool b => .int (if b then 1 else 0) v.display
  | .float x => .float x
  | v =>
    let t := if repr then v.repr else v.display
    match v, escape with
    | .safe _, _ => .text t
    | _, some esc => .text (esc t)
    | _, none => .text t

/-- The name of an argument's class in messages. -/
def Arg.className : Arg → String
  | .int .. => "integer"
  | .float _ => "float"
  | .text _ => "string"

/-- The name of the format a conversion character asks for. -/
def formatName (c : Char) : String :=
  match c with
  | 'd' | 'i' => "decimal format"
  | 'o' => "octal format"
  | 'x' | 'X' => "hex format"
  | 'c' => "character format"
  | 'e' | 'E' => "scientific notation"
  | 'f' | 'F' => "fixed-point notation"
  | _ => "general format"

/-- The failure of an argument that a conversion cannot print. -/
def mismatch (a : Arg) (s : Spec) : Error :=
  .invalid ("invalid format spec at offset " ++ toString s.offset ++ "; '" ++ a.className ++
    "' cannot be formatted in " ++ formatName s.conversion ++ " ('" ++
    s.conversion.toString ++ "')")

/-- The failure of a conversion with no argument for it. -/
def missingArgument (offset : Nat) : Error :=
  .invalid ("missing an argument for format spec at offset '" ++ toString offset ++ "'")

/-- The failure of a key when the argument is not a mapping. -/
def notMapping : Error := .invalid "format argument must be a mapping"

/-- The failure of `c` in a safe format string. -/
def charInSafe : Error :=
  .invalid "character formatting is not supported for safe format strings"

/-- The failure of `c` on text that is not one character. -/
def notChar : Error := .invalid "character format ('c') requires integer or char"

/-- The failure of `c` on an integer that is no code point. -/
def notCodePoint : Error := .invalid "character format ('c') arg not in range(0x110000)"

/-- Whether an integer is the code point of a character: below `0x110000` and no
surrogate. -/
def isCodePoint (n : Int) : Bool := 0 ≤ n && n < 0x110000 && !(0xD800 ≤ n && n < 0xE000)

/-- One conversion applied to its argument. -/
def convert (escape : Option (String → String)) (s : Spec) (v : Value) :
    Except Error String :=
  let a := Arg.of escape (s.conversion == 'r') v
  match s.conversion with
  | 's' | 'r' =>
    match a with
    | .int _ t => .ok (padSigned s t)
    | .float x => .ok (padSigned s (floatWord x s.precision))
    | .text t =>
      let t := match s.precision with
        | some p => String.ofList (t.toList.take p)
        | none => t
      .ok (pad s t)
  | 'c' =>
    match a with
    | .int n _ =>
      if isCodePoint n then .ok (padChars s (Char.ofNat n.toNat).toString)
      else .error notCodePoint
    | .float _ => .error (mismatch a s)
    | .text t =>
      match t.toList with
      | [c] => .ok (padChars s c.toString)
      | _ => .error notChar
  | 'd' | 'i' | 'o' | 'x' | 'X' =>
    match a with
    | .int n _ => .ok (intText s n)
    | a => .error (mismatch a s)
  | _ =>
    match a with
    | .int n _ => .ok (exactText s n)
    | .float x => .ok (floatText s x)
    | a => .error (mismatch a s)

/-- Whether a value is a mapping that keys look into. -/
def isMapping : Value → Bool
  | .map _ | .kwargs _ => true
  | _ => false

/-- The argument of a conversion and the arguments left after it: the next one, or with
a key the field of the first argument `all` begins with. -/
def argumentFor (all : List Value) (s : Spec) (args : List Value) :
    Except Error (Value × List Value) :=
  match s.key, all, args with
  | some _, [], _ => .error (missingArgument s.offset)
  | some k, m :: _, _ =>
    if isMapping m then
      match m.item? (.str k) with
      | some v => .ok (v, args)
      | none => .error (missingArgument s.offset)
    else .error notMapping
  | none, _, [] => .error (missingArgument s.offset)
  | none, _, a :: rest => .ok (a, rest)

/-- The format string from byte `pos` on, written after `out`, with `args` the arguments
not yet taken and `all` every argument.  Each conversion is read, given its argument and
applied before the rest is read; every step reads a character, so `fuel` at least the
number of characters suffices. -/
def fillFrom (escape : Option (String → String)) (all : List Value) :
    Nat → List Char → Nat → List Value → String → Except Error String
  | 0, _, _, _, out => .ok out
  | fuel + 1, cs, pos, args, out =>
    match cs with
    | [] => .ok out
    | '%' :: '%' :: rest => fillFrom escape all fuel rest (pos + 2) args (out.push '%')
    | '%' :: rest => do
      let (spec, more, pos) ← readSpec rest (pos + 1)
      if spec.conversion == 'c' && escape.isSome then throw charInSafe
      let (v, args) ← argumentFor all spec args
      let text ← convert escape spec v
      fillFrom escape all fuel more pos args (out ++ text)
    | c :: rest => fillFrom escape all fuel rest (pos + c.utf8Size) args (out.push c)

end Format

/-- A format string applied to arguments; `escape` is present when the format string is
safe, and escapes the text of arguments that are not. -/
def formatWith (escape : Option (String → String)) (fmt : String) (args : List Value) :
    Except Error String :=
  Format.fillFrom escape args (fmt.length + 1) fmt.toList 0 args ""

end LowRankTuner.Template
