import HintFuzz.Format.Conversion
import HintFuzz.Format.Escape
import HintFuzz.Format.Number
import HintFuzz.Format.Whole
import HintFuzz.Text.Octets

/-!
# Formats with arguments

Conversions in a format take arguments one after the other, and a format that takes
some is used again until none are left.
-/

namespace HintFuzz.Format

/-! ### Arguments as numbers -/

/-- What is wrong with an argument that should be a number. -/
inductive ArgumentDefect
  | noNumber
  /-- Something stands behind the number. -/
  | tooLong
  | outOfRange
deriving DecidableEq, Repr

/-- An argument that should be a number. -/
structure ArgumentFault where
  arg : Octets
  defect : ArgumentDefect
deriving DecidableEq, Repr

/-- What is wrong with a format. -/
inductive FormatFault
  | missingLetter
  | invalidDirective (directive : Octets)
deriving DecidableEq, Repr

/-- What is wrong with an argument that was read up to some place, if anything. -/
def conversionFault (arg : Octets) (rest : List Char) (inRange : Bool) : Option ArgumentFault :=
  if !rest.isEmpty then
    if rest.length = arg.length then some ⟨arg, .noNumber⟩ else some ⟨arg, .tooLong⟩
  else if inRange then none
  else some ⟨arg, .outOfRange⟩

/-- The code of the character behind a quotation mark, if an argument starts with
one. -/
def quotedCode? (arg : Octets) : Option Nat :=
  match arg.toList with
  | mark :: rest =>
    if mark = '\'' ∨ mark = '"' then some ((rest.head?.map Char.toNat).getD 0) else none
  | [] => none

/-- The word of 64 bits without a sign that a number stands for. -/
def unsignedWord (value : Int) : Int :=
  ((Int64.ofInt value).toUInt64.toNat : Nat)

/-- The number that an argument gives to a conversion, and what is wrong with the
argument.  A number that does not fit into a word is cut to the next one. -/
def wholeArgument (signed : Bool) (arg : Octets) : Int × Option ArgumentFault :=
  match quotedCode? arg with
  | some code => ((code : Nat), none)
  | none =>
    match signedFront? arg.toList with
    | none => (0, conversionFault arg arg.toList true)
    | some (value, rest) =>
      let greatest : Int := if signed then Int64.maxValue.toInt else (UInt64.size : Int) - 1
      let least : Int := if signed then Int64.minValue.toInt else -greatest
      let inRange := least ≤ value && value ≤ greatest
      let value :=
        if greatest < value then greatest
        else if least ≤ value then (if signed then value else unsignedWord value)
        else if signed then least
        else greatest
      (value, conversionFault arg rest inRange)

/-- The floating point number that an argument gives to a conversion, and what is
wrong with the argument. -/
def floatArgument (arg : Octets) : Float × Option ArgumentFault :=
  match quotedCode? arg with
  | some code => (Float.ofNat code, none)
  | none =>
    match floatFront? arg.toList with
    | none => (0.0, conversionFault arg arg.toList true)
    | some (value, rest) =>
      let isNamed := arg.toList.any fun c => c = 'n' || c = 'N'
      (value, conversionFault arg rest (!value.isInf || isNamed))

/-! ### Formats -/

/-- What comes of a part of a format. -/
structure Formatted where
  text : List Char
  /-- The arguments that are left. -/
  args : List Octets
  complaints : List ArgumentFault
  /-- Why nothing more is printed, if there is a reason. -/
  fault : Option FormatFault
  /-- An argument says that nothing follows. -/
  ended : Bool

namespace Formatted

/-- What comes of a format with some characters and complaints in front. -/
def behind (text : List Char) (complaints : List ArgumentFault) (formatted : Formatted) :
    Formatted :=
  { formatted with
    text := text ++ formatted.text, complaints := complaints ++ formatted.complaints }

end Formatted

/-- What a conversion shows of its argument, what is wrong with the argument, and
whether it says that nothing follows.  With `wide`, escapes in base sixteen count. -/
def converted (wide : Bool) (conversion : Conversion) (arg : Option Octets) :
    String × Option ArgumentFault × Bool :=
  match conversion.letter with
  | 's' => (conversion.showText (arg.getD ""), none, false)
  | 'b' =>
    let text := arg.getD ""
    let (characters, ended) := unescape wide (text.length + 1) text.toList
    (conversion.showText (String.ofList characters), none, ended)
  | 'c' =>
    let c := ((arg.getD "").toList.head?).getD '\x00'
    ({ conversion with precision := none }.showText (String.singleton c), none, false)
  | 'd' | 'i' | 'o' | 'u' | 'x' | 'X' =>
    let signed := conversion.letter = 'd' || conversion.letter = 'i'
    let (value, complaint) := (arg.map (wholeArgument signed)).getD (0, none)
    (conversion.showWhole value, complaint, false)
  | _ =>
    let (value, complaint) := (arg.map floatArgument).getD (0.0, none)
    (conversion.showFloat value, complaint, false)

/-- A size in a format: digits, or a star for which an argument stands; with the
rest of the format, the arguments that are left, and what is wrong with the
argument. -/
def sizeFront (format : List Char) (args : List Octets) :
    Int × List Char × List Octets × List ArgumentFault :=
  match format with
  | '*' :: rest =>
    let (value, complaint) := (args.head?.map (wholeArgument true)).getD (0, none)
    (value, rest, args.drop 1, complaint.toList)
  | format =>
    let digits := format.takeWhile Char.isDigit
    let value : Int := Decimal.ofDigits digits
    (value, format.drop digits.length, args, [])

/-- The letters of the conversions. -/
def conversionLetters : List Char :=
  "bcsdiouxXaAeEfFgG".toList

/-- The widest field and the longest fraction that are shown. -/
def mostColumns : Nat := 100000

/-- One pass over a format. -/
def formatOnce (wide : Bool) : (fuel : Nat) → List Char → List Octets → Formatted
  | 0, _, args => ⟨[], args, [], none, false⟩
  | _, [], args => ⟨[], args, [], none, false⟩
  | fuel + 1, '\\' :: rest, args =>
    let (c, rest) := escape wide rest
    (formatOnce wide fuel rest args).behind [c] []
  | fuel + 1, '%' :: '%' :: rest, args => (formatOnce wide fuel rest args).behind ['%'] []
  | fuel + 1, '%' :: rest, args =>
    let isFlag (c : Char) : Bool := "-+ #0".toList.contains c
    let start := '%' :: rest
    let flags := rest.takeWhile isFlag
    let (width, rest, args, first) := sizeFront (rest.drop flags.length) args
    let (precision, rest, args, second) :
        Option Int × List Char × List Octets × List ArgumentFault :=
      match rest with
      | '.' :: rest =>
        let (precision, rest, args, complaints) := sizeFront rest args
        (some precision, rest, args, complaints)
      | rest => (none, rest, args, [])
    match rest with
    | [] => ⟨[], args, first ++ second, some .missingLetter, false⟩
    | letter :: rest =>
      if !conversionLetters.contains letter then
        let directive := String.ofList (start.take (start.length - rest.length))
        ⟨[], args, first ++ second, some (.invalidDirective directive), false⟩
      else
        let flags := if width < 0 then '-' :: flags else flags
        let precision := (precision.filter fun count => 0 ≤ count).map Int.toNat
        let bounded (count : Nat) : Nat := if count < mostColumns then count else mostColumns
        let conversion := Conversion.ofFlags flags (bounded width.natAbs)
          (precision.map bounded) letter
        let (shown, complaint, ended) := converted wide conversion args.head?
        let complaints := first ++ second ++ complaint.toList
        let args := args.drop 1
        if ended then ⟨shown.toList, args, complaints, none, true⟩
        else (formatOnce wide fuel rest args).behind shown.toList complaints
  | fuel + 1, c :: rest, args => (formatOnce wide fuel rest args).behind [c] []

/-- Prints a format, again and again while it takes arguments and some are left. -/
def formatAll (wide : Bool) (format : List Char) : (fuel : Nat) → List Octets → Formatted
  | 0, args => ⟨[], args, [], none, false⟩
  | fuel + 1, args =>
    let first := formatOnce wide (format.length + 1) format args
    if first.args.isEmpty ∨ first.args.length = args.length ∨ first.fault.isSome ∨ first.ended
    then first
    else (formatAll wide format fuel first.args).behind first.text first.complaints

/-- What comes of a format with arguments.  With `wide`, escapes in base sixteen
count. -/
def formatted (wide : Bool) (format : Octets) (args : List Octets) : Formatted :=
  formatAll wide format.toList (args.length + 1) args

end HintFuzz.Format
