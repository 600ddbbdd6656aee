import TwoTierWatchdog.Proofs.Record.Layout
import TwoTierWatchdog.Record.Config

/-!
# Configuration records of other versions

A configuration is read back from a record of any length: from one that its own version
wrote, from a longer one of a later version and from a shorter one of an earlier version.
The length that counts is the one that is declared, not that of the buffer.
-/

namespace TwoTierWatchdog.Record.Config

variable {buffer buffer' : List UInt8} {c c' : Config}

/-- The configuration that the bytes of a whole record hold. -/
def ofBytes (raw : List UInt8) : Config where
  version := word16At raw 2
  timeoutMs := word32At raw 4
  hardReset := flagAt raw 8

/-- The bytes that count: those declared, as far as the layout goes. -/
def known (buffer : List UInt8) : Nat :=
  min (declared buffer) layoutLength

theorem decode_of_accepted (h : Accepted buffer) :
    decode buffer = .ok (ofBytes
      (buffer.take (known buffer) ++ (encode {}).drop (known buffer))) := by
  unfold decode
  rw [overlay_of_accepted h]
  rfl

theorem decode_of_not (h : ¬ Accepted buffer) : decode buffer = .error .invalidArgument := by
  unfold decode
  rw [overlay_of_not h]
  rfl

theorem accepted_of_decode (h : decode buffer = .ok c) : Accepted buffer := by
  refine Decidable.byContradiction fun hnot => ?_
  cases (decode_of_not hnot).symm.trans h

theorem decode_eq_error_iff : decode buffer = .error .invalidArgument ↔ ¬ Accepted buffer := by
  refine ⟨fun herror haccepted => ?_, decode_of_not⟩
  cases (decode_of_accepted haccepted).symm.trans herror

theorem exists_decode_iff : (∃ c, decode buffer = .ok c) ↔ Accepted buffer := by
  constructor
  · rintro ⟨c, hc⟩
    exact accepted_of_decode hc
  · intro h
    exact ⟨_, decode_of_accepted h⟩

/-- Buffers that agree in the bytes that count hold the same configuration. -/
theorem decode_inj_of_take (h : decode buffer = .ok c) (h' : decode buffer' = .ok c')
    (hsame : buffer.take (known buffer) = buffer'.take (known buffer)) : c = c' := by
  have haccepted := accepted_of_decode h
  have haccepted' := accepted_of_decode h'
  have hfour : 4 ≤ known buffer := Nat.le_min.mpr ⟨haccepted.2.1, by decide⟩
  have hbyte : ∀ j, j < known buffer → byteAt buffer j = byteAt buffer' j := by
    intro j hj
    rw [← byteAt_take buffer hj, hsame, byteAt_take buffer' hj]
  have hdeclared : declared buffer = declared buffer' :=
    declared_congr (hbyte 0 (by omega)) (hbyte 1 (by omega))
  have hknown : known buffer' = known buffer := by rw [known, known, hdeclared]
  rw [decode_of_accepted haccepted] at h
  rw [decode_of_accepted haccepted', hknown, ← hsame] at h'
  exact Except.ok.inj (h.symm.trans h')

/-! ## What is read from what was written -/

theorem word16At_encode (c : Config) : word16At c.encode 2 = c.version :=
  word16At_eq rfl rfl

theorem word32At_encode (c : Config) : word32At c.encode 4 = c.timeoutMs :=
  word32At_eq rfl rfl rfl rfl

theorem flagAt_encode (c : Config) : flagAt c.encode 8 = c.hardReset :=
  byteOfFlag_ne_zero c.hardReset

/-- What the first `n` bytes of a record tell of a configuration, with defaults for the
rest. -/
def upTo (n : Nat) (c : Config) : Config :=
  let d : Config := {}
  { version := c.version
    timeoutMs := if 8 ≤ n then c.timeoutMs else d.timeoutMs
    hardReset := if 9 ≤ n then c.hardReset else d.hardReset }

/-- The bytes past the size in which a buffer is to agree with a record are the declared
ones. A declared size that cuts the period in two is left out. -/
theorem decode_of_agrees (h : Accepted buffer)
    (hbytes : ∀ j, 2 ≤ j → j < known buffer → byteAt buffer j = byteAt c.encode j)
    (hwhole : declared buffer ≤ 4 ∨ 8 ≤ declared buffer) :
    decode buffer = .ok (c.upTo (declared buffer)) := by
  obtain ⟨-, hheader, hwithin⟩ := id h
  have hfour : 4 ≤ declared buffer := hheader
  have hknown : known buffer = min (declared buffer) 12 := rfl
  have hlaid : Overlaid (known buffer) c.encode (encode {})
      (buffer.take (known buffer) ++ (encode {}).drop (known buffer)) :=
    overlaid_take_drop (Nat.le_trans (Nat.min_le_left ..) hwithin) (encode {}) hbytes
  rw [decode_of_accepted h]
  generalize buffer.take (known buffer) ++ (encode {}).drop (known buffer) = raw at hlaid
  have hversion : word16At raw 2 = c.version := by
    rw [hlaid.word16 (Nat.le_refl 2) (by omega), word16At_encode]
  have htimeout : word32At raw 4 =
      if 8 ≤ declared buffer then c.timeoutMs else ({} : Config).timeoutMs := by
    rw [hlaid.word32 (by omega) (by omega), word32At_encode, word32At_encode]
    exact if_congr (by omega) rfl rfl
  have hmode : flagAt raw 8 =
      if 9 ≤ declared buffer then c.hardReset else ({} : Config).hardReset := by
    rw [hlaid.flag (by omega), flagAt_encode, flagAt_encode]
    exact if_congr (by omega) rfl rfl
  rw [ofBytes, hversion, htimeout, hmode]
  rfl

/-- A record of another size, followed by anything: the record may be cut where the
declared size ends. -/
theorem decode_declaring {size : UInt16} {rest : List UInt8} (m : Nat)
    (hheader : 4 ≤ size.toNat) (hm : min size.toNat 12 ≤ m) (hmax : m ≤ 12)
    (hwithin : size.toNat ≤ m + rest.length) (hwhole : size.toNat ≤ 4 ∨ 8 ≤ size.toNat) :
    decode ((declaring size c.encode).take m ++ rest) = .ok (c.upTo size.toNat) := by
  have hlen : ((declaring size c.encode).take m).length = m := by
    rw [List.length_take]
    exact Nat.min_eq_left hmax
  have hbyte : ∀ j < m, byteAt ((declaring size c.encode).take m ++ rest) j =
      byteAt (declaring size c.encode) j := by
    intro j hj
    rw [byteAt_append, hlen, if_pos hj, byteAt_take _ hj]
  have hsize : declared ((declaring size c.encode).take m ++ rest) = size.toNat := by
    rw [declared_congr (hbyte 0 (by omega)) (hbyte 1 (by omega)), declared_declaring]
  have haccepted : Accepted ((declaring size c.encode).take m ++ rest) := by
    rw [Accepted, hsize, List.length_append, hlen]
    exact ⟨by omega, hheader, hwithin⟩
  refine (decode_of_agrees (c := c) haccepted (fun j hj hlt => ?_) (hsize ▸ hwhole)).trans ?_
  · rw [known, hsize, layoutLength] at hlt
    have hfront : (bytes16 size).length = 2 := rfl
    rw [hbyte j (by omega), declaring, byteAt_append, hfront, if_neg (Nat.not_lt.mpr hj),
      byteAt_drop, Nat.add_sub_cancel' hj]
  · rw [hsize]

/-- A record that declares its own length or more, as a later version does. -/
theorem decode_longer {size : UInt16} {rest : List UInt8} (c : Config)
    (hsize : 12 ≤ size.toNat) (hwithin : size.toNat ≤ 12 + rest.length) :
    decode (declaring size c.encode ++ rest) = .ok { c with size := 12 } := by
  have hdecode := decode_declaring (c := c) 12 (by omega) (by omega) (by omega) hwithin
    (by omega)
  rw [upTo, if_pos (by omega), if_pos (by omega)] at hdecode
  exact hdecode

/-- A record that an earlier version ended between two fields. -/
theorem decode_older {size : UInt16} (c : Config) (rest : List UInt8)
    (hsize : size.toNat = 4 ∨ 8 ≤ size.toNat ∧ size.toNat ≤ 11) :
    decode ((declaring size c.encode).take size.toNat ++ rest) = .ok (c.upTo size.toNat) :=
  decode_declaring size.toNat (by omega) (by omega) (by omega) (by omega) (by omega)

theorem size_of_decode (h : decode buffer = .ok c) : c.size = 12 := by
  rw [decode_of_accepted (accepted_of_decode h)] at h
  exact congrArg Config.size (Except.ok.inj h).symm

/-- What was read is read again from the record written of it. -/
theorem decode_encode_of_decode (h : decode buffer = .ok c) : decode c.encode = .ok c := by
  have hagain : decode (declaring 12 c.encode ++ []) = .ok { c with size := 12 } :=
    decode_longer c (by decide) (by decide)
  rw [← size_of_decode h, List.append_nil] at hagain
  exact hagain

/-! ## Every version -/

/-- Reading fails, and then with `invalidArgument`, exactly if the buffer is short of two
bytes or the size that it declares is short of the header or past its end. What was
written is read back: from a record that declares its own length or more all of it,
whatever follows, and from an older one that ends between two fields the fields that it
has, with defaults for the rest. The declared bytes alone decide what is read, as far as
the layout goes. What is read is in the layout of this version, and is read again from
the record written of it. -/
theorem records_of_every_version_are_read :
    (∀ buffer, (decode buffer = .error .invalidArgument ↔
        buffer.length < 2 ∨ declared buffer < 4 ∨ buffer.length < declared buffer) ∧
      ((∃ c, decode buffer = .ok c) ↔
        ¬ (buffer.length < 2 ∨ declared buffer < 4 ∨ buffer.length < declared buffer))) ∧
    (∀ (c : Config) (size : UInt16) (rest : List UInt8), 12 ≤ size.toNat →
      size.toNat ≤ 12 + rest.length →
      decode (declaring size c.encode ++ rest) = .ok { c with size := 12 }) ∧
    (∀ (c : Config) (size : UInt16) (rest : List UInt8),
      size = 4 ∨ size = 8 ∨ 9 ≤ size.toNat ∧ size.toNat ≤ 11 →
      decode ((declaring size c.encode).take size.toNat ++ rest) = .ok
        { size := 12
          version := c.version
          timeoutMs := if 8 ≤ size.toNat then c.timeoutMs else ({} : Config).timeoutMs
          hardReset := if 9 ≤ size.toNat then c.hardReset else ({} : Config).hardReset }) ∧
    (∀ buffer buffer' c c', decode buffer = .ok c → decode buffer' = .ok c' →
      buffer.take (min (declared buffer) 12) = buffer'.take (min (declared buffer) 12) →
      c = c') ∧
    ∀ buffer c, decode buffer = .ok c → decode c.encode = .ok c := by
  refine ⟨fun buffer => ⟨?_, ?_⟩, fun c size rest => decode_longer c,
    fun c size rest hsize => decode_older c rest ?_,
    fun buffer buffer' c c' => decode_inj_of_take, fun buffer c => decode_encode_of_decode⟩
  · rw [← not_accepted_iff]
    exact decode_eq_error_iff
  · rw [← not_accepted_iff, Decidable.not_not]
    exact exists_decode_iff
  · rcases hsize with rfl | rfl | ⟨hlow, hhigh⟩
    · exact .inl rfl
    · exact .inr (by decide)
    · exact .inr (by omega)

/-- A record of eight bytes, from before there was a flag, with two bytes behind it, one of
sixteen bytes, and a buffer that is shorter than the size in it. -/
theorem records_of_eight_and_of_sixteen_bytes_are_read :
    let c : Config := { timeoutMs := 2000, hardReset := false }
    decode ((declaring 8 c.encode).take 8 ++ [7, 7]) = .ok { timeoutMs := 2000 } ∧
    decode (declaring 16 c.encode ++ [7, 7, 7, 7]) = .ok c ∧
    decode c.encode = .ok c ∧
    decode (c.encode.take 11) = .error .invalidArgument := by
  obtain ⟨hfail, hlonger, holder, hsame, hagain⟩ := records_of_every_version_are_read
  intro c
  have hnewer : decode (declaring 16 c.encode ++ [7, 7, 7, 7]) = .ok c :=
    hlonger c 16 [7, 7, 7, 7] (by decide) (by decide)
  exact ⟨holder c 8 [7, 7] (.inr (.inl rfl)), hnewer, hagain _ c hnewer,
    (hfail (c.encode.take 11)).1.mpr (by decide)⟩

end TwoTierWatchdog.Record.Config
