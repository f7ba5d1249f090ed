import CommandLink.Codec.Fill

/-!
# Feeds that may be interrupted

A feed is asked for at most some number of bytes at a time. It gives some of them, gives none at
its end, or fails, and can go on after a failure. To be interrupted is a failure that says nothing
about the bytes, and the attempt is made again. Draining a feed may take attempts without end,
because the feed gives bytes for ever or because it is interrupted for ever. `Feed.fill` drains
only the first bytes of a feed, one more than were declared, so that the first of these reasons
falls away. That there is memory for the bytes is taken for granted.
-/

namespace CommandLink

/-- Whether an attempt that failed is to be made again. -/
def CodecFault.isInterruption (fault : CodecFault) : Bool := fault.kind == .interrupted

/-- A source of bytes that has a state after a failure too. It gives no more bytes than it is asked
for. -/
structure Feed (σ : Type) where
  attempt : (room : Nat) → σ → Except CodecFault Bytes × σ
  length_le : ∀ {room state bytes next}, attempt room state = (.ok bytes, next) →
    bytes.length ≤ room

namespace Feed

variable {σ : Type}

/-- The first bytes of a feed, as many as are left of some number. Once none are left the feed is
not asked any more. -/
def upTo (feed : Feed σ) : Feed (Nat × σ) where
  attempt room
    | (left, state) =>
      if left = 0 then (.ok [], (left, state))
      else
        match feed.attempt (min room left) state with
        | (.ok bytes, next) => (.ok bytes, (left - bytes.length, next))
        | (.error fault, next) => (.error fault, (left, next))
  length_le := by
    rintro room ⟨left, state⟩ bytes next h
    dsimp only at h
    split at h
    · cases h
      exact Nat.zero_le room
    · split at h
      · rename_i given _ hattempt
        cases h
        exact Nat.le_trans (feed.length_le hattempt) (Nat.min_le_left room left)
      · cases h

/-- Append what a feed gives until its end, in so many attempts. There is no result when they are
not enough. -/
def drain (feed : Feed σ) : (attempts : Nat) → σ → Bytes → Option Fill
  | 0, _, _ => none
  | attempts + 1, state, buffer =>
    match feed.attempt Reader.portion state with
    | (.ok [], _) => some ⟨buffer, .ok ()⟩
    | (.ok (b :: bytes), next) => feed.drain attempts next (buffer ++ b :: bytes)
    | (.error fault, next) =>
      if fault.isInterruption then feed.drain attempts next buffer
      else some ⟨buffer, .error fault⟩

/-- Append exactly the declared number of bytes, or leave the buffer as it was, in so many attempts.
One byte more is let through, by which a feed that gives too many is told from one that ends where
it should. -/
def fill (feed : Feed σ) (attempts : Nat) (state : σ) (declared : UInt64) (buffer : Bytes) :
    Option Fill :=
  (feed.upTo.drain attempts ((declared + 1).toNat, state) buffer).map
    (·.whole declared.toNat buffer)

/-- What filling comes to, if as many attempts are made as it takes: a result at some time, or none
at any time. -/
def ComesTo (feed : Feed σ) (state : σ) (declared : UInt64) (buffer : Bytes) :
    Option Fill → Prop
  | some filled => ∃ attempts, feed.fill attempts state declared buffer = some filled
  | none => ∀ attempts, feed.fill attempts state declared buffer = none

end Feed

/-! ## What feeds bring -/

/-- What can be seen of a feed from outside: which bytes it gives first, and after which bytes it
ends, fails, or is interrupted for ever. -/
structure Outflow where
  gives : Bytes → Prop
  ends : Bytes → Prop
  fails : Bytes → CodecFault → Prop
  stalls : Bytes → Prop

/-- What filling a buffer comes to, by what the feed brings. Bytes are counted up to the one by
which the feed gives too many; of what would come after that nothing depends. -/
inductive Outflow.Brings (outflow : Outflow) (declared : Nat) (buffer : Bytes) :
    Option Fill → Prop where
  | filled {bytes} : outflow.ends bytes → bytes.length = declared →
    Brings outflow declared buffer (some ⟨buffer ++ bytes, .ok ()⟩)
  | short {bytes} : outflow.ends bytes → bytes.length < declared →
    Brings outflow declared buffer
      (some ⟨buffer, .error (.lengthMismatch bytes.length declared)⟩)
  | long {bytes} : outflow.gives bytes → declared < bytes.length →
    Brings outflow declared buffer
      (some ⟨buffer, .error (.lengthMismatch (declared + 1) declared)⟩)
  | failed {bytes fault} : outflow.fails bytes fault → bytes.length ≤ declared →
    Brings outflow declared buffer (some ⟨buffer, .error fault⟩)
  | stalled {bytes} : outflow.stalls bytes → bytes.length ≤ declared →
    Brings outflow declared buffer none

namespace Feed

variable {σ : Type}

/-- Asked time and again, and for `ask n` bytes at most when it has given `n`, a feed gives these
bytes and is in that state. Interruptions in between make no difference. -/
inductive Gives (feed : Feed σ) (ask : Nat → Nat) (start : σ) : Bytes → σ → Prop where
  | nothing : Gives feed ask start [] start
  | more {bytes state b chunk next} : Gives feed ask start bytes state →
    feed.attempt (ask bytes.length) state = (.ok (b :: chunk), next) →
    Gives feed ask start (bytes ++ b :: chunk) next
  | again {bytes state fault next} : Gives feed ask start bytes state →
    feed.attempt (ask bytes.length) state = (.error fault, next) →
    fault.isInterruption = true → Gives feed ask start bytes next

/-- A feed that is never interrupted. -/
def Uninterrupted (feed : Feed σ) : Prop :=
  ∀ {room state fault next}, feed.attempt room state = (.error fault, next) →
    fault.isInterruption = false

/-- What a feed brings when it is asked so. -/
def outflow (feed : Feed σ) (ask : Nat → Nat) (start : σ) : Outflow where
  gives bytes := ∃ state, feed.Gives ask start bytes state
  ends bytes := ∃ state next, feed.Gives ask start bytes state ∧
    feed.attempt (ask bytes.length) state = (.ok [], next)
  fails bytes fault := ∃ state next, feed.Gives ask start bytes state ∧
    feed.attempt (ask bytes.length) state = (.error fault, next) ∧ fault.isInterruption = false
  stalls bytes := (∃ state, feed.Gives ask start bytes state) ∧
    ∀ state, feed.Gives ask start bytes state → ∃ fault next,
      feed.attempt (ask bytes.length) state = (.error fault, next) ∧ fault.isInterruption = true

/-- How many bytes are asked for when so many have been given: what is left up to one byte more than
was declared, in portions. -/
def asked (declared given : Nat) : Nat := min Reader.portion (declared + 1 - given)

end Feed

/-! ## Readers and chunks -/

/-- A reader as a feed. After a failure it is as it was before. -/
def Reader.feed {σ : Type} (reader : Reader σ) : Feed σ where
  attempt room state :=
    match reader.read room state with
    | .ok (bytes, next) => (.ok (bytes.take room), next)
    | .error fault => (.error fault, state)
  length_le := by
    intro room state bytes next h
    split at h
    · cases h
      exact List.length_take_le room _
    · cases h

/-- Chunks of bytes, with interruptions between them, up to the first empty chunk, which is the end,
or the first other failure, or without end. -/
structure Chunks where
  delivery : Nat → Except CodecFault Bytes

namespace Chunks

/-- Whether something follows the delivery. -/
def GoesOn : Except CodecFault Bytes → Prop
  | .ok bytes => bytes ≠ []
  | .error fault => fault.isInterruption = true

/-- The bytes of the first deliveries. -/
def first (chunks : Chunks) (count : Nat) : Bytes :=
  (List.range count).flatMap fun index => (chunks.delivery index).toOption.getD []

/-- So many deliveries are made and something follows each of them, and these are their bytes. -/
def Reaches (chunks : Chunks) (count : Nat) (bytes : Bytes) : Prop :=
  (∀ index < count, GoesOn (chunks.delivery index)) ∧ bytes = chunks.first count

/-- What chunks bring, however much is asked for. -/
def outflow (chunks : Chunks) : Outflow where
  gives bytes := ∃ count, chunks.Reaches count bytes
  ends bytes := ∃ count, chunks.Reaches count bytes ∧ chunks.delivery count = .ok []
  fails bytes fault := ∃ count, chunks.Reaches count bytes ∧
    chunks.delivery count = .error fault ∧ fault.isInterruption = false
  stalls bytes := ∃ count, chunks.Reaches count bytes ∧
    ∀ index ≥ count, ∃ fault, chunks.delivery index = .error fault ∧ fault.isInterruption = true

/-- What comes next, and which delivery after that, when so much of a chunk is not taken yet. -/
def upcoming (chunks : Chunks) : Bytes × Nat → Except CodecFault Bytes × Nat
  | ([], index) => (chunks.delivery index, index + 1)
  | (b :: pending, index) => (.ok (b :: pending), index)

/-- Chunks as a feed. What there is no room for is kept for the next time. -/
def feed (chunks : Chunks) : Feed (Bytes × Nat) where
  attempt room state :=
    match chunks.upcoming state with
    | (.ok bytes, index) => (.ok (bytes.take room), (bytes.drop room, index))
    | (.error fault, index) => (.error fault, ([], index))
  length_le := by
    intro room state bytes next h
    split at h
    · cases h
      exact List.length_take_le room _
    · cases h

/-- Nothing has been taken yet. -/
def start : Bytes × Nat := ([], 0)

end Chunks

end CommandLink
