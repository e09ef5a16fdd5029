/-!
# The Mersenne Twister

The generator MT19937 of 32-bit words, seeded from an integer of any size
through the reference initialisation by an array of words.
-/

namespace GrammarFuzz.Random

/-- The state of a twister: 624 words, of which those before `index` are used up. -/
structure Twister where
  state : Array UInt32
  index : Nat

namespace Twister

/-- The number of words in a state. -/
def size : Nat := 624

/-- The word at a place. -/
def wordAt (state : Array UInt32) (place : Nat) : UInt32 :=
  state.getD place 0

/-- The state that a single word seeds: each word comes from the one before. -/
def seedWord (seed : UInt32) : Array UInt32 :=
  let step (state : Array UInt32) (place : Nat) : Array UInt32 :=
    let last := wordAt state (place - 1)
    state.push ((1812433253 : UInt32) * (last ^^^ (last >>> 30)) + UInt32.ofNat place)
  (List.range' 1 (size - 1)).foldl step #[seed]

/-- The little-endian words of a number, at least one; `fuel` bounds their count. -/
def keyWords : (fuel : Nat) → Nat → List UInt32
  | 0, _ => []
  | fuel + 1, value =>
    UInt32.ofNat (value % Nat.pow 2 32) ::
      if value < Nat.pow 2 32 then [] else keyWords fuel (value / Nat.pow 2 32)

/-- A place in the state and in the key while seeding. -/
structure Mixing where
  state : Array UInt32
  place : Nat
  keyPlace : Nat

/-- Moves to the next place; the first place repeats the last word. -/
def Mixing.advance (mixing : Mixing) : Mixing :=
  if mixing.place + 1 ≥ size then
    { mixing with
      state := mixing.state.setIfInBounds 0 (wordAt mixing.state (size - 1)), place := 1 }
  else { mixing with place := mixing.place + 1 }

/-- One step of the first pass, which mixes the key in. -/
def Mixing.absorb (key : Array UInt32) (mixing : Mixing) : Mixing :=
  let last := wordAt mixing.state (mixing.place - 1)
  let word := (wordAt mixing.state mixing.place ^^^ ((last ^^^ (last >>> 30)) * 1664525))
    + wordAt key mixing.keyPlace + UInt32.ofNat mixing.keyPlace
  let keyPlace := if mixing.keyPlace + 1 ≥ key.size then 0 else mixing.keyPlace + 1
  Mixing.advance
    { state := mixing.state.setIfInBounds mixing.place word, place := mixing.place, keyPlace }

/-- One step of the second pass, which spreads the key over the state. -/
def Mixing.spread (mixing : Mixing) : Mixing :=
  let last := wordAt mixing.state (mixing.place - 1)
  let word := (wordAt mixing.state mixing.place ^^^ ((last ^^^ (last >>> 30)) * 1566083941))
    - UInt32.ofNat mixing.place
  Mixing.advance { mixing with state := mixing.state.setIfInBounds mixing.place word }

/-- The twister that an array of words seeds. -/
def ofKey (key : Array UInt32) : Twister :=
  let start : Mixing := ⟨seedWord 19650218, 1, 0⟩
  let absorbed := (List.range (max size key.size)).foldl (fun m _ => m.absorb key) start
  let spread := (List.range (size - 1)).foldl (fun m _ => m.spread) absorbed
  ⟨spread.state.setIfInBounds 0 0x80000000, size⟩

/-- The twister of a seed; the sign of the seed does not count. -/
def ofSeed (seed : Int) : Twister :=
  ofKey (keyWords (seed.natAbs.log2 / 32 + 1) seed.natAbs).toArray

/-- The word that replaces the one at a place when the state is used up. -/
def renewed (state : Array UInt32) (place : Nat) : UInt32 :=
  let mixed := (wordAt state place &&& 0x80000000) |||
    (wordAt state ((place + 1) % size) &&& 0x7fffffff)
  wordAt state ((place + 397) % size) ^^^ (mixed >>> 1) ^^^
    (if mixed &&& 1 = 0 then 0 else 0x9908b0df)

/-- A new state from a used one, word by word in place. -/
def renew (state : Array UInt32) : Array UInt32 :=
  (List.range size).foldl (fun state place => state.setIfInBounds place (renewed state place)) state

/-- The output for a word of the state. -/
def temper (word : UInt32) : UInt32 :=
  let word := word ^^^ (word >>> 11)
  let word := word ^^^ ((word <<< 7) &&& 0x9d2c5680)
  let word := word ^^^ ((word <<< 15) &&& 0xefc60000)
  word ^^^ (word >>> 18)

/-- The next word and the twister after it. -/
def next (twister : Twister) : UInt32 × Twister :=
  if twister.index < size then
    (temper (wordAt twister.state twister.index), { twister with index := twister.index + 1 })
  else
    let state := renew twister.state
    (temper (wordAt state 0), ⟨state, 1⟩)

end Twister

end GrammarFuzz.Random
