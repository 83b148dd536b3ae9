/-! The ASCII form of a label with other characters: its ASCII characters come first, and the
others are inserted one after another, in the order of their code points, at distances that
are written as numbers with a varying base.
-/

namespace NodeDevices.Http.Punycode

/-- The digit with a value below 36. -/
def digit (value : Nat) : Char :=
  if value < 26 then Char.ofNat (97 + value) else Char.ofNat (22 + value)

/-- The bias that comes after a distance. -/
def adapt (delta count : Nat) (first : Bool) : Nat :=
  go 0 (let delta := if first then delta / 700 else delta / 2; delta + delta / count) 64
where
  /-- Scales a distance down. -/
  go (steps delta : Nat) : Nat → Nat
    | 0 => steps
    | bound + 1 =>
        if 455 < delta then go (steps + 36) (delta / 35) bound
        else steps + 36 * delta / (delta + 38)

/-- The digits of a distance. -/
def distance (bias : Nat) : Nat → Nat → Nat → List Char
  | 0, _, _ => []
  | bound + 1, position, rest =>
      let threshold := min 26 (max 1 (position - bias))
      if rest < threshold then [digit rest]
      else
        digit (threshold + (rest - threshold) % (36 - threshold))
          :: distance bias bound (position + 36) ((rest - threshold) / (36 - threshold))

/-- What encoding has come to. -/
structure Progress where
  output : List Char
  handled : Nat
  delta : Nat := 0
  bias : Nat := 72
  first : Bool := true

/-- Inserts a code point at all its places. -/
def insertAll (code : Nat) (label : List Nat) (progress : Progress) : Progress :=
  let after := label.foldl
    (fun progress c =>
      if c < code then { progress with delta := progress.delta + 1 }
      else if c = code then
        { output := progress.output ++ distance progress.bias 64 36 progress.delta
          handled := progress.handled + 1
          delta := 0
          bias := adapt progress.delta (progress.handled + 1) progress.first
          first := false }
      else progress)
    progress
  { after with delta := after.delta + 1 }

/-- Inserts the code points above a given one, the least first. -/
def insertFrom (label : List Nat) : Nat → Nat → Progress → Progress
  | 0, _, progress => progress
  | bound + 1, code, progress =>
      match (label.filter (code ≤ ·)).min? with
      | none => progress
      | some next =>
          let delta := progress.delta + (next - code) * (progress.handled + 1)
          insertFrom label bound (next + 1) (insertAll next label { progress with delta })

/-- The ASCII form of a label without its mark. -/
def encode (label : List Char) : List Char :=
  let codes := label.map Char.toNat
  let basic := label.filter (·.toNat < 0x80)
  let output := if basic = [] then [] else basic ++ ['-']
  (insertFrom codes codes.length 0x80 { output, handled := basic.length }).output

/-- The form of a label in an address. -/
def label (text : List Char) : List Char :=
  if text.all (·.toNat < 0x80) then text else "xn--".toList ++ encode text

end NodeDevices.Http.Punycode
