import TwoTierWatchdog.Proofs.Record.Layout
import TwoTierWatchdog.Scenario.Run

/-!
# Information records in buffers of the caller's

The record is written into a buffer whose header says how much of it the caller knows.
It is written in place, past the caller's own size and no further than that size goes,
and what is then read from the buffer is the record as far as it was written, and the
default record from there on. The size may cut a word in two: the word is then read with
its low bytes from one record and its high bytes from the other.
-/

namespace TwoTierWatchdog.Record

variable {out raw : List UInt8}

/-- Stores bytes one after the other, from a place on. -/
def store : Nat → List UInt8 → List UInt8 → List UInt8
  | _, [], out => out
  | i, byte :: bytes, out => store (i + 1) bytes (out.set i byte)

theorem store_eq (i : Nat) (bytes out : List UInt8) (hwithin : i + bytes.length ≤ out.length) :
    store i bytes out = out.take i ++ bytes ++ out.drop (i + bytes.length) := by
  induction bytes generalizing i out with
  | nil => simp [store]
  | cons byte bytes ih =>
      rw [List.length_cons] at hwithin
      have hset : out.set i byte = (out.take i ++ [byte]) ++ out.drop (i + 1) := by
        rw [List.set_eq_take_append_cons_drop, if_pos (by omega), List.append_assoc,
          List.singleton_append]
      have hlen : (out.take i ++ [byte]).length = i + 1 := by
        rw [List.length_append, List.length_take_of_le (by omega), List.length_singleton]
      rw [store, ih (i + 1) _ (by rw [List.length_set]; omega), hset, List.take_left' hlen,
        ← List.drop_drop, List.drop_left' hlen, List.drop_drop, List.length_cons,
        show i + 1 + bytes.length = i + (bytes.length + 1) by omega]
      simp only [List.append_assoc, List.singleton_append]

namespace Info

variable {i : Info} {n : Nat}

/-- The record that the bytes of a whole record hold. -/
def ofBytes (raw : List UInt8) : Info where
  version := word16At raw 2
  capabilities := ⟨word32At raw 4⟩
  timeoutMs := word32At raw 8
  minTimeoutMs := word32At raw 12
  maxTimeoutMs := word32At raw 16
  running := flagAt raw 20

theorem decode_of_accepted (h : Accepted out) :
    decode out = .ok (ofBytes
      (out.take (min (declared out) 24) ++ (encode {}).drop (min (declared out) 24))) := by
  unfold decode
  rw [overlay_of_accepted h]
  rfl

/-! ## What is read from what was written -/

theorem length_encode (i : Info) : i.encode.length = 24 :=
  rfl

theorem word16At_encode (i : Info) : word16At i.encode 2 = i.version :=
  word16At_eq rfl rfl

theorem word32At_encode (i : Info) :
    word32At i.encode 4 = i.capabilities.bits ∧ word32At i.encode 8 = i.timeoutMs ∧
      word32At i.encode 12 = i.minTimeoutMs ∧ word32At i.encode 16 = i.maxTimeoutMs :=
  ⟨word32At_eq rfl rfl rfl rfl, word32At_eq rfl rfl rfl rfl, word32At_eq rfl rfl rfl rfl,
    word32At_eq rfl rfl rfl rfl⟩

theorem flagAt_encode (i : Info) : flagAt i.encode 20 = i.running :=
  byteOfFlag_ne_zero i.running

theorem byteAt_encode_of_reserved (i : Info) {j : Nat} (hj : 21 ≤ j) :
    byteAt i.encode j = 0 := by
  by_cases hlt : j < 24
  · obtain rfl | rfl | rfl : j = 21 ∨ j = 22 ∨ j = 23 := by omega
    all_goals rfl
  · rw [byteAt, List.getD_eq_default _ _ (by rw [length_encode]; omega)]

theorem reread_encode (i : Info) :
    { ofBytes i.encode with size := word16At i.encode 0 } = i := by
  obtain ⟨hcapabilities, htimeout, hmin, hmax⟩ := word32At_encode i
  have hsize : word16At i.encode 0 = i.size := word16At_eq rfl rfl
  rw [ofBytes, hsize, word16At_encode, hcapabilities, htimeout, hmin, hmax, flagAt_encode]

/-- No two records are written alike. -/
theorem eq_of_encode_eq {j : Info} (h : i.encode = j.encode) : i = j := by
  rw [← reread_encode i, ← reread_encode j, h]

/-- The record that is read from tidy bytes is written as them, but for the size. -/
theorem encode_ofBytes (hlen : raw.length = 24)
    (hflag : byteAt raw 20 = byteOfFlag (flagAt raw 20))
    (hreserved : ∀ j, 21 ≤ j → byteAt raw j = 0) :
    (ofBytes raw).encode = declaring 24 raw := by
  have hraw : raw.drop 2 = [byteAt raw 2, byteAt raw 3, byteAt raw 4, byteAt raw 5,
      byteAt raw 6, byteAt raw 7, byteAt raw 8, byteAt raw 9, byteAt raw 10, byteAt raw 11,
      byteAt raw 12, byteAt raw 13, byteAt raw 14, byteAt raw 15, byteAt raw 16,
      byteAt raw 17, byteAt raw 18, byteAt raw 19, byteAt raw 20, byteAt raw 21,
      byteAt raw 22, byteAt raw 23] := by
    have hmap := eq_map_byteAt raw
    rw [hlen] at hmap
    have hdrop := congrArg (List.drop 2) hmap
    exact hdrop
  rw [declaring, hraw, hflag, hreserved 21 (by omega), hreserved 22 (by omega),
    hreserved 23 (by omega)]
  simp only [encode, ofBytes, bytes16_word16At, bytes32_word32At]
  rfl

/-- What the first `n` bytes of a record tell of it, with defaults for the rest. -/
def upTo (n : Nat) (i : Info) : Info :=
  let d : Info := {}
  { version := i.version
    capabilities := if 8 ≤ n then i.capabilities else d.capabilities
    timeoutMs := if 12 ≤ n then i.timeoutMs else d.timeoutMs
    minTimeoutMs := if 16 ≤ n then i.minTimeoutMs else d.minTimeoutMs
    maxTimeoutMs := if 20 ≤ n then i.maxTimeoutMs else d.maxTimeoutMs
    running := if 21 ≤ n then i.running else d.running }

/-- The layout goes no further than its length. -/
theorem upTo_min (i : Info) (n : Nat) : i.upTo (min n 24) = i.upTo n := by
  have hle : ∀ m ≤ 24, (m ≤ min n 24) = (m ≤ n) := fun m hm => propext (by omega)
  simp only [upTo, hle 8 (by decide), hle 12 (by decide), hle 16 (by decide),
    hle 20 (by decide), hle 21 (by decide)]

/-- Where no word is cut in two, each field is read from one of the records. -/
theorem ofBytes_of_overlaid (h : Overlaid n i.encode (encode {}) raw) (hn : 4 ≤ n)
    (hwhole : n = 4 ∨ n = 8 ∨ n = 12 ∨ n = 16 ∨ 20 ≤ n) : ofBytes raw = i.upTo n := by
  obtain ⟨hcapabilities, htimeout, hmin, hmax⟩ := word32At_encode i
  obtain ⟨hcapabilities', htimeout', hmin', hmax'⟩ := word32At_encode {}
  rw [ofBytes, h.word16 (Nat.le_refl 2) (by omega), h.word32 (i := 4) (by omega) (by omega),
    h.word32 (i := 8) (by omega) (by omega), h.word32 (i := 12) (by omega) (by omega),
    h.word32 (i := 16) (by omega) (by omega), h.flag (by omega), word16At_encode,
    hcapabilities, htimeout, hmin, hmax, flagAt_encode, hcapabilities', htimeout', hmin',
    hmax', flagAt_encode, upTo, ← apply_ite Capabilities.bits]

/-! ## Writing in place -/

/-- Writes the record over the bytes that a buffer declares, its size excepted. -/
def fill (i : Info) (out : List UInt8) : Except Error Nat × List UInt8 :=
  match declaredSize out with
  | .error e => (.error e, out)
  | .ok size =>
    let n := min size layoutLength
    (.ok n, store 2 ((i.encode.take n).drop 2) out)

/-- A buffer whose bytes up to the `n`th are the record's, its size excepted. -/
def filled (i : Info) (n : Nat) (out : List UInt8) : List UInt8 :=
  out.take 2 ++ (i.encode.take n).drop 2 ++ out.drop n

theorem fill_of_not (h : ¬ Accepted out) (i : Info) :
    i.fill out = (.error .invalidArgument, out) := by
  rw [fill, declaredSize_of_not h]

theorem fill_of_accepted (h : Accepted out) (i : Info) :
    i.fill out = (.ok (min (declared out) 24), i.filled (min (declared out) 24) out) := by
  obtain ⟨-, hheader, hwithin⟩ := id h
  have hfour : 4 ≤ declared out := hheader
  have hlen : ((i.encode.take (min (declared out) 24)).drop 2).length =
      min (declared out) 24 - 2 := by
    rw [List.length_drop, List.length_take_of_le (Nat.min_le_right _ 24)]
  rw [fill, declaredSize_of_accepted h]
  refine congrArg (Except.ok (min (declared out) 24), ·) ?_
  rw [layoutLength, store_eq _ _ _ (by omega), hlen, Nat.add_sub_cancel' (by omega), filled]

/-- In place or not, the same is written. -/
theorem fill_eq (i : Info) (out : List UInt8) : i.fill out =
    match i.encodeInto out with
    | .ok (n, out') => (.ok n, out')
    | .error e => (.error e, out) := by
  by_cases h : Accepted out
  · rw [fill_of_accepted h, encodeInto, declaredSize_of_accepted h]
    rfl
  · rw [fill_of_not h, encodeInto, declaredSize_of_not h]
    rfl

/-! ## What a filled buffer holds -/

section Filled

variable (hfour : 4 ≤ n) (hmax : n ≤ 24) (hwithin : n ≤ out.length)
include hfour hmax hwithin

theorem length_front : (out.take 2 ++ (i.encode.take n).drop 2).length = n := by
  rw [List.length_append, List.length_take_of_le (by omega), List.length_drop,
    List.length_take_of_le hmax]
  omega

theorem take_filled : (i.filled n out).take n = out.take 2 ++ (i.encode.take n).drop 2 := by
  rw [filled, List.take_left' (length_front hfour hmax hwithin)]

theorem drop_filled : (i.filled n out).drop n = out.drop n := by
  rw [filled, List.drop_left' (length_front hfour hmax hwithin)]

theorem take_two_filled : (i.filled n out).take 2 = out.take 2 := by
  rw [filled, List.append_assoc, List.take_left' (List.length_take_of_le (by omega))]

theorem length_filled : (i.filled n out).length = out.length := by
  rw [filled, List.length_append, length_front hfour hmax hwithin, List.length_drop]
  omega

theorem byteAt_filled {j : Nat} (hlow : 2 ≤ j) (hhigh : j < n) :
    byteAt (i.filled n out) j = byteAt i.encode j := by
  have htwo : (out.take 2).length = 2 := List.length_take_of_le (by omega)
  rw [← byteAt_take _ hhigh, take_filled hfour hmax hwithin, byteAt_append, htwo,
    if_neg (by omega), byteAt_drop, Nat.add_sub_cancel' hlow, byteAt_take _ hhigh]

/-- A filled buffer is not changed by being filled again. -/
theorem filled_filled : i.filled n (i.filled n out) = i.filled n out := by
  rw [filled, take_two_filled hfour hmax hwithin, drop_filled hfour hmax hwithin, filled]

theorem declared_filled : declared (i.filled n out) = declared out := by
  refine declared_congr ?_ ?_
  all_goals
    rw [← byteAt_take (n := 2) _ (by omega), take_two_filled hfour hmax hwithin,
      byteAt_take _ (by omega)]

/-- What is read is the record up to the last byte that was written. -/
theorem overlaid_filled : Overlaid n i.encode (encode {})
    ((i.filled n out).take n ++ (encode {}).drop n) := by
  refine overlaid_take_drop ?_ (encode {}) fun j => byteAt_filled hfour hmax hwithin
  rw [length_filled hfour hmax hwithin]
  exact hwithin

theorem encode_read_of_filled :
    (ofBytes ((i.filled n out).take n ++ (encode {}).drop n)).encode =
      (encode {}).take 2 ++ (i.encode.take n).drop 2 ++ (encode {}).drop n := by
  have hread := overlaid_filled (i := i) hfour hmax hwithin
  have hlen : ((i.filled n out).take n ++ (encode {}).drop n).length = 24 := by
    rw [take_filled hfour hmax hwithin, List.length_append, length_front hfour hmax hwithin,
      List.length_drop, length_encode]
    omega
  have hdrop : ((i.filled n out).take n ++ (encode {}).drop n).drop 2 =
      (i.encode.take n).drop 2 ++ (encode {}).drop n := by
    rw [take_filled hfour hmax hwithin, List.append_assoc,
      List.drop_left' (List.length_take_of_le (by omega))]
  rw [encode_ofBytes hlen, declaring, hdrop, ← List.append_assoc]
  · rfl
  · rw [hread.flag (by omega), hread 20 (by omega)]
    split
    · rw [if_pos (by omega), flagAt_encode]
      rfl
    · rw [if_neg (by omega), flagAt_encode]
      rfl
  · intro j hj
    rw [hread j (by omega)]
    split
    · exact byteAt_encode_of_reserved i hj
    · exact byteAt_encode_of_reserved {} hj

end Filled

/-- What a buffer holds that a record was written into. -/
structure Written (i : Info) (out out' : List UInt8) : Prop where
  length : out'.length = out.length
  front : out'.take 2 = out.take 2
  rest : out'.drop (min (declared out) 24) = out.drop (min (declared out) 24)
  /-- What is read is the one record that is written as the new bytes, and as the default
  record before and after them. -/
  read : ∃ r, decode out' = .ok r ∧ r.size = 24 ∧ ∀ r', r'.encode =
    (encode {}).take 2 ++ (i.encode.take (min (declared out) 24)).drop 2 ++
      (encode {}).drop (min (declared out) 24) ↔ r' = r
  whole : 24 ≤ declared out → decode out' = .ok { i with size := 24 }
  parts : declared out = 4 ∨ declared out = 8 ∨ declared out = 12 ∨ declared out = 16 ∨
    20 ≤ declared out → decode out' = .ok (i.upTo (declared out))
  again : i.fill out' = (.ok (min (declared out) 24), out')

/-- How a request for a record is answered, and what is left of the buffer. -/
structure Answered (i : Info) (out : List UInt8) (answer : Except Error Nat × List UInt8) :
    Prop where
  refused : answer.1 = .error .invalidArgument ↔
    out.length < 2 ∨ declared out < 4 ∨ out.length < declared out
  kept : ∀ e, answer.1 = .error e → answer.2 = out
  written : ¬ (out.length < 2 ∨ declared out < 4 ∨ out.length < declared out) →
    answer.1 = .ok (min (declared out) 24) ∧ Written i out answer.2

theorem written_filled (h : Accepted out) (i : Info) :
    Written i out (i.filled (min (declared out) 24) out) := by
  obtain ⟨htwo, hheader, hbuffer⟩ := id h
  have hdeclared : 4 ≤ declared out := hheader
  have hfour : 4 ≤ min (declared out) 24 := by omega
  have hmax : min (declared out) 24 ≤ 24 := Nat.min_le_right ..
  have hwithin : min (declared out) 24 ≤ out.length := by omega
  have hlen := length_filled (i := i) hfour hmax hwithin
  have hsize := declared_filled (i := i) hfour hmax hwithin
  have haccepted : Accepted (i.filled (min (declared out) 24) out) := by
    rw [Accepted, hsize, hlen]
    exact h
  have hread := decode_of_accepted haccepted
  rw [hsize] at hread
  have hencode := encode_read_of_filled (i := i) hfour hmax hwithin
  have hparts : declared out = 4 ∨ declared out = 8 ∨ declared out = 12 ∨ declared out = 16 ∨
      20 ≤ declared out → decode (i.filled (min (declared out) 24) out) =
        .ok (i.upTo (min (declared out) 24)) := by
    intro hwhole
    rw [hread, ofBytes_of_overlaid (overlaid_filled hfour hmax hwithin) hfour (by omega)]
  refine ⟨hlen, take_two_filled hfour hmax hwithin, drop_filled hfour hmax hwithin,
    ⟨_, hread, rfl, fun r' => ⟨fun hr => eq_of_encode_eq (hr.trans hencode.symm), ?_⟩⟩,
    fun hlong => ?_, fun hwhole => ?_, ?_⟩
  · rintro rfl
    exact hencode
  · rw [hparts (by omega), Nat.min_eq_right hlong]
    rfl
  · rw [hparts hwhole, upTo_min]
  · rw [fill_of_accepted haccepted, hsize, filled_filled hfour hmax hwithin]

theorem answered_fill (i : Info) (out : List UInt8) : Answered i out (i.fill out) := by
  by_cases h : Accepted out
  · rw [fill_of_accepted h]
    refine ⟨⟨fun herror => ?_, fun hnot => absurd h (not_accepted_iff.mpr hnot)⟩,
      fun e herror => ?_, fun _ => ⟨rfl, written_filled h i⟩⟩
    · cases herror
    · cases herror
  · rw [fill_of_not h]
    exact ⟨⟨fun _ => not_accepted_iff.mp h, fun _ => rfl⟩, fun _ _ => rfl,
      fun hnot => absurd (not_accepted_iff.mp h) hnot⟩

end Info

end TwoTierWatchdog.Record

namespace TwoTierWatchdog

open Record

/-- Writes what a watchdog tells about itself over the bytes that a buffer declares. -/
def System.fillInfo {κ : Type} (s : System κ) (w : Watchdog) (out : List UInt8) :
    Except Error Nat × List UInt8 :=
  match s.info w with
  | .ok i => i.fill out
  | .error e => (.error e, out)

theorem System.fillInfo_eq {κ : Type} (s : System κ) (w : Watchdog) (out : List UInt8) :
    s.fillInfo w out =
      match s.writeInfo w out with
      | .ok (n, out') => (.ok n, out')
      | .error e => (.error e, out) := by
  unfold fillInfo writeInfo
  cases s.info w with
  | error e => rfl
  | ok i => exact i.fill_eq out

theorem Scenario.inquire_writeInfo (w : Watchdog) (out : List UInt8) (s : World) :
    inquire w (.writeInfo out) s = .written (s.fillInfo w out).1 (s.fillInfo w out).2 := by
  rw [System.fillInfo_eq]
  simp only [inquire]
  cases s.writeInfo w out <;> rfl

/-- A record is written into any buffer, and read back from it, as far as the buffer's
header says that it is known: a header that is cut off, short of itself or past the end
of the buffer is refused, and then the buffer is left as it was. What a watchdog tells
about itself is written by the same law, and where it cannot tell, nothing is. -/
theorem written_info_is_read_back :
    (∀ (i : Info) (out : List UInt8), i.Answered out (i.fill out) ∧
      i.fill out = match i.encodeInto out with
        | .ok (n, out') => (.ok n, out')
        | .error e => (.error e, out)) ∧
    (∀ {κ : Type} (s : System κ) (w : Watchdog) (out : List UInt8),
      (∀ i, s.info w = .ok i → i.Answered out (s.fillInfo w out)) ∧
      (∀ e, s.info w = .error e → s.fillInfo w out = (.error e, out)) ∧
      s.fillInfo w out = match s.writeInfo w out with
        | .ok (n, out') => (.ok n, out')
        | .error e => (.error e, out)) ∧
    ∀ (w : Watchdog) (out : List UInt8) (s : Scenario.World),
      Scenario.inquire w (.writeInfo out) s =
        .written (s.fillInfo w out).1 (s.fillInfo w out).2 := by
  refine ⟨fun i out => ⟨i.answered_fill out, i.fill_eq out⟩,
    fun s w out => ⟨fun i hi => ?_, fun e he => ?_, s.fillInfo_eq w out⟩,
    Scenario.inquire_writeInfo⟩
  · rw [System.fillInfo, hi]
    exact i.answered_fill out
  · rw [System.fillInfo, he]

/-- Thirty bytes that declare twenty-six, a header that is cut off, and an instance that is
there beside one that is not. -/
theorem written_info_is_read_back_from_thirty_bytes :
    let i : Info := { capabilities := ⟨0x80000003⟩, timeoutMs := 0x01020304, running := true }
    let out := [26, 0] ++ List.replicate 28 7
    let s : Scenario.World := (System.build [(2, 0)] (Scenario.initial [.twdt {}])).2
    let w : Watchdog := ⟨1, 2, by decide⟩
    (i.fill out).1 = .ok 24 ∧ (i.fill out).2.drop 24 = List.replicate 6 7 ∧
    Info.decode (i.fill out).2 = .ok i ∧
    i.fill [26] = (.error .invalidArgument, [26]) ∧
    (∃ j, s.info w = .ok j ∧ Info.decode (s.fillInfo w out).2 = .ok j) ∧
    s.fillInfo { w with registry := 0 } out = (.error .notFound, out) := by
  intro i out s w
  obtain ⟨hrecord, hwatchdog, -⟩ := written_info_is_read_back
  obtain ⟨hlength, hwritten⟩ := (hrecord i out).1.written (by decide)
  have hcut := (hrecord i [26]).1
  have herror := hcut.refused.mpr (by decide)
  have hinfo : ∃ j, s.info w = .ok j ∧ { j with size := 24 } = j := ⟨_, rfl, rfl⟩
  obtain ⟨j, hj, hown⟩ := hinfo
  have hread := (((hwatchdog s w out).1 j hj).written (by decide)).2.whole (by decide)
  exact ⟨hlength, hwritten.rest, hwritten.whole (by decide),
    Prod.ext herror (hcut.kept _ herror), ⟨j, hj, hread.trans (congrArg _ hown)⟩,
    (hwatchdog s { w with registry := 0 } out).2.1 _ rfl⟩

end TwoTierWatchdog
