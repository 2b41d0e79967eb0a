import MeteredPayments.Domain.Properties
import MeteredPayments.Domain.Punycode
import MeteredPayments.Domain.Status

/-!
# Domain names to ASCII

A URL host is brought to ASCII by the IDNA compatibility processing as the URL standard runs it:
map each code point by its status, split at the dots, check each label (Punycode, marks, joiners)
and, when a label is right-to-left, the bidirectional rules of RFC 5893.
-/

namespace MeteredPayments.Domain

/-- Whether one of the inclusive ranges holds a code point. -/
def inRanges (ranges : List (Nat × Nat)) (code : Nat) : Bool :=
  ranges.any fun (low, high) => low ≤ code ∧ code ≤ high

/-- What the processing does with a code point beyond ASCII. -/
inductive Status where
  | valid
  | mapped
  | ignored
  | disallowed
deriving DecidableEq, Repr

/-- The status of a code point beyond ASCII. -/
def status (character : Char) : Status :=
  let code := character.toNat
  if inRanges disallowedRanges code then .disallowed
  else if inRanges ignoredRanges code then .ignored
  else if inRanges validRanges code then .valid
  else .mapped

/-- The target of a mapped code point whose target holds ASCII, if it is one. -/
def asciiTarget? (code : Nat) : Option (List Char) :=
  asciiMappings.findSome? fun run =>
    if run.low = code then some run.target.toList
    else if run.low < code ∧ code ≤ run.high then
      match run.target.toList with
      | [first] => some [Char.ofNat (first.toNat + (code - run.low))]
      | _ => none
    else none

/-- The ASCII characters a host may not hold: the controls, the space, DEL and
`%#/:<>?@[\]^|`. -/
def isDenied (character : Char) : Bool :=
  character.toNat ≤ 0x20 || character.toNat = 0x7F || "%#/:<>?@[\\]^|".toList.contains character

/-- What a code point stands for in the mapped name, or none if it refuses the name. A mapped
code point whose target holds no ASCII stands for itself. -/
def mapCharacter (character : Char) : Option (List Char) :=
  if character.toNat < 0x80 then
    if isDenied character then none else some [character.toLower]
  else
    match status character with
    | .disallowed => none
    | .ignored => some []
    | .valid => some [character]
    | .mapped =>
      match asciiTarget? character.toNat with
      | some target => if target.any isDenied then none else some target
      | none => some [character]

/-- The mapped name. -/
def mapName (input : List Char) : Option (List Char) :=
  List.flatten <$> input.mapM mapCharacter

/-- Whether a code point is a mark. -/
def isMark (character : Char) : Bool := inRanges markRanges character.toNat

/-- Whether a code point is a virama. -/
def isVirama (character : Char) : Bool := inRanges viramaRanges character.toNat

/-- The bidirectional class of a code point. -/
def bidiClass (character : Char) : BidiClass :=
  let code := character.toNat
  match bidiRanges.find? fun (low, high, _) => low ≤ code ∧ code ≤ high with
  | some (_, _, found) => found
  | none => .l

/-- The joining type of a code point, if it joins. -/
def joiningType? (character : Char) : Option JoiningType :=
  let code := character.toNat
  (joiningRanges.find? fun (low, high, _) => low ≤ code ∧ code ≤ high).map (·.2.2)

/-- The zero-width non-joiner. -/
def nonJoiner : Char := Char.ofNat 0x200C

/-- The zero-width joiner. -/
def joiner : Char := Char.ofNat 0x200D

/-- Whether the nearest code point that is not transparent, in the order given, joins on the
side asked: `towards` lists the joining types that do. -/
def joinsNearest (towards : List JoiningType) (characters : List Char) : Bool :=
  match (characters.dropWhile fun c => joiningType? c = some .transparent).head? with
  | some character =>
    match joiningType? character with
    | some found => towards.contains found
    | none => false
  | none => false

/-- Whether a joiner may stand between `before` (nearest first) and `after`: after a virama, or,
for the non-joiner, between a code point joining to the right and one joining to the left. -/
def joinerFits (before : List Char) (character : Char) (after : List Char) : Bool :=
  (match before.head? with
    | some previous => isVirama previous
    | none => false) ||
  (character = nonJoiner && joinsNearest [.left, .dual] before &&
    joinsNearest [.right, .dual] after)

/-- Whether every joiner of the rest of a label fits; `before` is what came before it, nearest
first. -/
def joinersFit (before : List Char) : List Char → Bool
  | [] => true
  | character :: after =>
    (character ≠ nonJoiner && character ≠ joiner || joinerFits before character after) &&
      joinersFit (character :: before) after

/-- The checks every label takes: it does not start with a mark, and its joiners fit. -/
def labelFits (label : List Char) : Bool :=
  (match label.head? with
    | some first => !isMark first
    | none => true) && joinersFit [] label

/-- Whether a decoded label is one the processing could have produced: not empty, not all
ASCII, each code point valid as written and able to stand in normalization form C, no dot, no
second `xn--`. -/
def decodedFits (label : List Char) : Bool :=
  !label.isEmpty && label.any (·.toNat ≥ 0x80) &&
    label.all (fun c => c.toNat < 0x80 || status c = .valid && !inRanges notNfcRanges c.toNat) &&
    !label.contains '.' && !(label.take 4 == "xn--".toList) && labelFits label

/-- A checked label: its code points (decoded when written in Punycode) and its ASCII form. -/
def checkLabel (label : List Char) : Option (List Char × List Char) :=
  if label.take 4 == "xn--".toList then
    if label.any (·.toNat ≥ 0x80) then none
    else
      match Punycode.decode (label.drop 4) with
      | some decoded => if decodedFits decoded then some (decoded, label) else none
      | none => none
  else if labelFits label then
    some (label, if label.all (·.toNat < 0x80) then label else "xn--".toList)
  else none

/-- The classes a left-to-right label may hold after its first code point. -/
def leftToRightClasses : List BidiClass := [.l, .en, .es, .cs, .et, .on, .bn, .nsm]

/-- The classes a right-to-left label may hold after its first code point. -/
def rightToLeftClasses : List BidiClass := [.r, .al, .an, .en, .es, .cs, .et, .on, .bn, .nsm]

/-- Whether a label keeps the bidirectional rules: it starts with a left-to-right or a
right-to-left letter, holds only the classes its direction allows, ends (before trailing marks)
in a letter of its direction or a digit, and a right-to-left label does not mix European and
Arabic digits. -/
def bidiFits (label : List Char) : Bool :=
  match label with
  | [] => true
  | first :: rest =>
    let classes := rest.map bidiClass
    let last := (label.reverse.dropWhile fun c => bidiClass c = .nsm).head?.map bidiClass
    match bidiClass first with
    | .l => classes.all leftToRightClasses.contains && (last = some .l || last = some .en)
    | .r | .al =>
      classes.all rightToLeftClasses.contains &&
        (last = some .r || last = some .al || last = some .en || last = some .an) &&
        !(classes.contains .en && classes.contains .an)
    | _ => false

/-- Whether a code point makes a name a right-to-left one. -/
def isRightToLeft (character : Char) : Bool :=
  let found := bidiClass character
  found = .r || found = .al || found = .an

/-- The ASCII form of a domain name, or none if the processing refuses it. -/
def toAscii (input : List Char) : Option String := do
  let mapped ← mapName input
  let checked ← (mapped.splitOn '.').mapM checkLabel
  let labels := checked.map (·.1)
  if labels.any (·.any isRightToLeft) && !labels.all bidiFits then none
  else some (".".intercalate (checked.map fun (_, ascii) => String.ofList ascii))

end MeteredPayments.Domain
