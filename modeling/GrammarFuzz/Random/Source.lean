import GrammarFuzz.Random.Twister

/-!
# Sources of random words

Everything random is drawn from a source of 32-bit words.  A source holds finitely many
words: a script its list, a seeded source the first `allowance` words of its
twister, a number that no run reaches.  Every loop over draws therefore ends, and
what a loop does on an endless stream is what it does on all long enough sources.
-/

namespace GrammarFuzz.Random

/-- A supply of random words. -/
inductive Source where
  /-- The words of a twister, `left` of them. -/
  | seeded (twister : Twister) (left : Nat)
  /-- The words `rest`, which are what is left of `script`. -/
  | scripted (script rest : List UInt32)

namespace Source

/-- The number of words in a fresh seeded source. -/
def allowance : Nat := Nat.pow 2 62

/-- The source of a seed. -/
def ofSeed (seed : Int) : Source := .seeded (Twister.ofSeed seed) allowance

/-- The source of the words of a script. -/
def ofWords (words : List UInt32) : Source := .scripted words words

/-- The number of words left. -/
def left : Source → Nat
  | seeded _ left => left
  | scripted _ rest => rest.length

/-- The next word and the source after it. -/
def next? : Source → Option (UInt32 × Source)
  | seeded _ 0 => none
  | seeded twister (left + 1) =>
    let (word, twister) := twister.next
    some (word, seeded twister left)
  | scripted _ [] => none
  | scripted script (word :: rest) => some (word, scripted script rest)

/-- Starts over with a seed; a script starts over at its first word. -/
def reseed (seed : Int) : Source → Source
  | seeded _ _ => ofSeed seed
  | scripted script _ => ofWords script

/-- What a source shows without being used: the next word of a seeded one, the number of used
words of a script. -/
def peek : Source → Nat
  | seeded twister _ => twister.next.1.toNat
  | scripted script rest => script.length - rest.length

theorem left_next {source after : Source} {word : UInt32}
    (hnext : source.next? = some (word, after)) : after.left + 1 = source.left := by
  cases source with
  | seeded twister left =>
    cases left with
    | zero => simp [next?] at hnext
    | succ left =>
      simp only [next?, Option.some.injEq, Prod.mk.injEq] at hnext
      simp [← hnext.2, Source.left]
  | scripted script rest =>
    cases rest with
    | nil => simp [next?] at hnext
    | cons first rest =>
      simp only [next?, Option.some.injEq, Prod.mk.injEq] at hnext
      simp [← hnext.2, Source.left]

end Source

end GrammarFuzz.Random
