import HintFuzz.Proofs.Bytes.LittleEndian
import HintFuzz.Random.Transcript
import Mathlib.Logic.Function.Basic

/-!
# What seeds depend on

A squeeze hashes all that a transcript holds and leaves the digest in its place, so what is
absorbed counts from one squeeze to the next only, and not the strings it came in: the seeds of a
transcript are those of a chain of digests, each of the one before it and the bytes absorbed since
(`Transcript.seeds_eq`).  What came before a squeeze shows behind it through the digest alone
(`Transcript.seeds_behind`).

The seed of an iteration is read off the digest of one message, in which the master seed and the
index stand in eight bytes each, so that the message determines them
(`Transcript.message_injective2`), and eight bytes of the digest are all that a seed shows
(`Transcript.seedOf_eq_iff`).
-/

namespace HintFuzz

/-- A digest has 32 bytes. -/
@[simp]
theorem length_sha256 (message : Bytes) : (sha256 message).length = 32 := by
  unfold sha256
  rfl

namespace Random

namespace Transcript

/-- What can be done with a transcript. -/
inductive Step
  | absorb (bytes : Bytes)
  | squeeze

def digest (transcript : Transcript) : Bytes :=
  sha256 transcript.state

/-- The seed that is read off a digest. -/
def seedOf (digest : Bytes) : UInt64 :=
  UInt64.ofNat (LittleEndian.toNat (digest.take 8))

private theorem squeeze_eq (transcript : Transcript) :
    transcript.squeeze = (seedOf transcript.digest, ⟨transcript.digest⟩) :=
  rfl

/-! ### Runs -/

/-- The transcript after some steps. -/
def after (transcript : Transcript) : List Step → Transcript
  | [] => transcript
  | .absorb bytes :: steps => (transcript.absorb bytes).after steps
  | .squeeze :: steps => transcript.squeeze.2.after steps

/-- The seeds that are taken by some steps. -/
def seeds (transcript : Transcript) : List Step → List UInt64
  | [] => []
  | .absorb bytes :: steps => (transcript.absorb bytes).seeds steps
  | .squeeze :: steps => transcript.squeeze.1 :: transcript.squeeze.2.seeds steps

private theorem seeds_append (transcript : Transcript) (before later : List Step) :
    transcript.seeds (before ++ later) =
      transcript.seeds before ++ (transcript.after before).seeds later := by
  induction before generalizing transcript with
  | nil => rfl
  | cons step before ih =>
      cases step with
      | absorb bytes => exact ih (transcript.absorb bytes)
      | squeeze => exact congrArg (List.cons _) (ih transcript.squeeze.2)

/-! ### What is absorbed -/

/-- The strings that are absorbed before each squeeze, back to the squeeze before it.  Those behind
the last squeeze are left out. -/
def pieces : List Step → List (List Bytes)
  | [] => []
  | .absorb bytes :: steps => (pieces steps).modifyHead (bytes :: ·)
  | .squeeze :: steps => [] :: pieces steps

/-- The bytes that are absorbed before each squeeze, back to the squeeze before it. -/
def absorbed (steps : List Step) : List Bytes :=
  (pieces steps).map List.flatten

private theorem absorbed_absorb (bytes : Bytes) (steps : List Step) :
    absorbed (.absorb bytes :: steps) = (absorbed steps).modifyHead (bytes ++ ·) := by
  unfold absorbed
  rw [pieces]
  cases pieces steps with
  | nil => rfl
  | cons piece rest => rfl

/-- The pieces, each with a squeeze behind it, are the steps up to the last squeeze. -/
theorem exists_eq_pieces (steps : List Step) :
    ∃ rest : List Bytes, steps =
      (pieces steps).flatMap (fun piece => piece.map .absorb ++ [.squeeze]) ++
        rest.map .absorb := by
  induction steps with
  | nil => exact ⟨[], rfl⟩
  | cons step steps ih =>
      obtain ⟨rest, split⟩ := ih
      cases step with
      | squeeze =>
          refine ⟨rest, ?_⟩
          rw [pieces, List.flatMap_cons, List.append_assoc, ← split]
          rfl
      | absorb bytes =>
          rw [pieces]
          cases cut : pieces steps with
          | nil =>
              -- No squeeze follows: the string is one of those behind the last.
              rw [cut] at split
              exact ⟨bytes :: rest, congrArg (List.cons _) split⟩
          | cons piece others =>
              rw [cut] at split
              exact ⟨rest, congrArg (List.cons _) split⟩

/-! ### The chain of digests -/

/-- The digests of a chain, each of the one before it and the bytes absorbed since. -/
def digests (held : Bytes) : List Bytes → List Bytes
  | [] => []
  | bytes :: rest => sha256 (held ++ bytes) :: digests (sha256 (held ++ bytes)) rest

private theorem digests_modifyHead (held bytes : Bytes) (parts : List Bytes) :
    digests held (parts.modifyHead (bytes ++ ·)) = digests (held ++ bytes) parts := by
  cases parts with
  | nil => rfl
  | cons part rest =>
      rw [List.modifyHead_cons, digests, digests, List.append_assoc]

/-- The seeds of a run are those of the digests of what it absorbs. -/
theorem seeds_eq (transcript : Transcript) (steps : List Step) :
    transcript.seeds steps = (digests transcript.state (absorbed steps)).map seedOf := by
  -- By the steps, whatever is held: an absorb takes its bytes from the first part to what is held,
  -- and a squeeze, whose part has been used up, goes on with the digest.
  induction steps generalizing transcript with
  | nil => rfl
  | cons step steps ih =>
      cases step with
      | absorb bytes =>
          rw [absorbed_absorb, digests_modifyHead]
          exact ih (transcript.absorb bytes)
      | squeeze =>
          have whole : absorbed (.squeeze :: steps) = [] :: absorbed steps := rfl
          rw [whole, digests, List.append_nil, List.map_cons, ← digest]
          exact congrArg (List.cons _) (ih ⟨transcript.digest⟩)

/-- Behind a seed, a run goes on from its digest alone. -/
theorem seeds_behind (transcript : Transcript) (before later : List Step) :
    transcript.seeds (before ++ .squeeze :: later) = transcript.seeds before ++
      seedOf (transcript.after before).digest ::
        (digests (transcript.after before).digest (absorbed later)).map seedOf := by
  have chain := seeds_eq ⟨(transcript.after before).digest⟩ later
  rw [seeds_append, seeds, squeeze_eq, chain]

/-! ### Iterations -/

/-- A seed shows the first eight bytes of its digest, and nothing else. -/
theorem seedOf_eq_iff {digest digest' : Bytes} (length : digest.length = 32)
    (length' : digest'.length = 32) :
    seedOf digest = seedOf digest' ↔ digest.take 8 = digest'.take 8 := by
  have front : (digest.take 8).length = 8 := List.length_take_of_le (length ▸ by decide)
  have front' : (digest'.take 8).length = 8 := List.length_take_of_le (length' ▸ by decide)
  constructor
  · intro same
    have numbers := congrArg UInt64.toNat same
    rw [seedOf, seedOf, LittleEndian.toNat_word front, LittleEndian.toNat_word front'] at numbers
    exact LittleEndian.eq_of_toNat_eq (front.trans front'.symm) numbers
  · intro same
    rw [seedOf, seedOf, same]

/-- What is hashed for the seed of an iteration. -/
def message (master index : UInt64) : Bytes :=
  domain ++ LittleEndian.ofNat 8 master.toNat ++ LittleEndian.ofNat 8 index.toNat

private theorem iterationSeed_eq (master index : UInt64) :
    iterationSeed master index = seedOf (sha256 (message master index)) :=
  rfl

/-- The message of an iteration tells its master seed and its index. -/
theorem message_injective2 : Function.Injective2 message := by
  intro master master' index index' same
  have width (word word' : UInt64) : (LittleEndian.ofNat 8 word.toNat).length =
      (LittleEndian.ofNat 8 word'.toNat).length := by
    rw [LittleEndian.length_ofNat, LittleEndian.length_ofNat]
  obtain ⟨fronts, indices⟩ := List.append_inj' same (width index index')
  have masters := List.append_cancel_left fronts
  exact ⟨LittleEndian.eq_of_ofNat_word_eq masters, LittleEndian.eq_of_ofNat_word_eq indices⟩

/-! ### The rule -/

/-- What the seeds of transcripts and iterations depend on. -/
structure SeedRule : Prop where
  /-- The steps up to the last squeeze are their pieces, each with a squeeze behind it. -/
  cut : ∀ steps, ∃ rest : List Bytes, steps =
    (pieces steps).flatMap (fun piece => piece.map .absorb ++ [.squeeze]) ++ rest.map .absorb
  chained : ∀ master steps, (start master).seeds steps =
    (digests (start master).state (absorbed steps)).map seedOf
  /-- How the bytes between squeezes are cut into pieces does not show. -/
  recut : ∀ (master : UInt64) (steps steps' : List Step),
    absorbed steps = absorbed steps' →
      (start master).seeds steps = (start master).seeds steps'
  digest_length : ∀ transcript : Transcript, transcript.digest.length = 32
  /-- Behind a squeeze with the same digest, whatever came before, the same bytes give the same
  seeds. -/
  forgets : ∀ (master master' : UInt64) (before before' later later' : List Step),
    ((start master).after before).digest = ((start master').after before').digest →
    absorbed later = absorbed later' →
      ∃ seeds : List UInt64,
        (start master).seeds (before ++ .squeeze :: later) =
          (start master).seeds before ++ seeds ∧
        (start master').seeds (before' ++ .squeeze :: later') =
          (start master').seeds before' ++ seeds
  iteration : ∀ master index : UInt64,
    iterationSeed master index = seedOf (sha256 (message master index))
  framed : Function.Injective2 message
  /-- Two iterations share a seed exactly if their messages, which are different, have digests
  with the same first eight bytes. -/
  shared_iff : ∀ master master' index index' : UInt64, (master, index) ≠ (master', index') →
    (iterationSeed master index = iterationSeed master' index' ↔
      message master index ≠ message master' index' ∧
        (sha256 (message master index)).take 8 = (sha256 (message master' index')).take 8)

/-- **Seeds depend on the bytes between squeezes, and behind a squeeze on its digest.** -/
theorem seedRule : SeedRule where
  cut := exists_eq_pieces
  chained master := seeds_eq (start master)
  recut := by
    intro master steps steps' same
    rw [seeds_eq, seeds_eq, same]
  digest_length transcript := length_sha256 transcript.state
  forgets := by
    intro master master' before before' later later' digest bytes
    refine ⟨_, seeds_behind (start master) before later, ?_⟩
    rw [seeds_behind, digest, bytes]
  iteration := iterationSeed_eq
  framed := message_injective2
  shared_iff := by
    intro master master' index index' distinct
    have apart : message master index ≠ message master' index' := by
      intro same
      obtain ⟨masters, indices⟩ := message_injective2 same
      exact distinct (Prod.ext masters indices)
    rw [iterationSeed_eq, iterationSeed_eq,
      seedOf_eq_iff (length_sha256 _) (length_sha256 _)]
    exact (and_iff_right apart).symm

/-- An empty string, and one that is cut in two. -/
example : absorbed [.absorb [1], .absorb [], .absorb [2], .squeeze, .squeeze, .absorb [3]] =
    absorbed [.absorb [1, 2], .squeeze, .absorb [], .squeeze] :=
  rfl

end Transcript

end Random

end HintFuzz
