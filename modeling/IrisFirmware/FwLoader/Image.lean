import IrisFirmware.FwLoader.Download

namespace FwLoader

def image (blocks : List (Nat × List Byte)) : List Byte :=
  blocks.foldl (fun got b => got.take b.1 ++ b.2) []

def slice (file : List Byte) (start len : Nat) : List Byte := (file.drop start).take len

def Copy (file buffer : List Byte) (start : Nat) : Prop :=
  ∀ i, i < buffer.length → start + i < file.length → buffer[i]? = file[start + i]?

structure Held (file : List Byte) (s : Loader) : Prop where
  held : s.lastOffsetToSend ≠ noOffset →
    Copy file s.byteBuffer (s.lastOffsetToSend.toNat - s.base)

structure Good (file : List Byte) (s : Loader) : Prop where
  exact : ∀ b ∈ s.blocks, b.2 = slice file b.1 b.2.length
  whole : image s.blocks = file.take (image s.blocks).length

variable {file : List Byte} {s : Loader}

theorem slice_getElem? {start len i : Nat} (h : i < len) :
    (slice file start len)[i]? = file[start + i]? := by
  rw [slice, List.getElem?_take, if_pos h, List.getElem?_drop]

theorem copied_length (behind : List Byte) (start len : Nat) :
    (copied file behind start len).length = len := by
  rw [copied, List.length_take, List.length_append, List.length_replicate]
  omega

theorem copied_copy (behind : List Byte) (start len : Nat) :
    Copy file (copied file behind start len) start := by
  intro i hi hin
  rw [copied_length] at hi
  have hdrop : i < (file.drop start).length := by
    rw [List.length_drop]
    omega
  rw [copied, List.getElem?_take, if_pos hi, List.append_assoc, List.getElem?_append_left hdrop,
    List.getElem?_drop]

theorem copied_within (behind : List Byte) {start len : Nat} (h : start + len ≤ file.length) :
    copied file behind start len = slice file start len := by
  have hdrop : len ≤ (file.drop start).length := by
    rw [List.length_drop]
    omega
  rw [copied, List.append_assoc, List.take_append_of_le_length hdrop, slice]

theorem bufferRead_copied {buffer : List Byte} {len i : Nat} (h : i < len)
    (hi : i < buffer.length) :
    (bufferRead buffer len)[i]? = buffer[i]? := by
  rw [bufferRead, List.getElem?_take, if_pos h, List.getElem?_append_left hi]

theorem bufferRead_zero {buffer : List Byte} {len i : Nat} (h : i < len) (hlen : len ≤ maxLength)
    (hi : buffer.length ≤ i) : (bufferRead buffer len)[i]? = some 0#8 := by
  rw [bufferRead, List.getElem?_take, if_pos h, List.getElem?_append_right hi,
    List.getElem?_replicate, if_pos (by omega)]

theorem Copy.reads_iff {buffer : List Byte} {start len : Nat} (h : Copy file buffer start)
    (hlen : len ≤ maxLength) :
    bufferRead buffer len = slice file start len ↔
      ∀ i, i < len → start + i < file.length ∧
        (buffer.length ≤ i → file[start + i]? = some 0#8) := by
  have hbyte : ∀ i, i < len →
      ((bufferRead buffer len)[i]? = (slice file start len)[i]? ↔
        start + i < file.length ∧ (buffer.length ≤ i → file[start + i]? = some 0#8)) := by
    intro i hlt
    rw [slice_getElem? hlt]
    rcases Nat.lt_or_ge i buffer.length with hcopied | hpast
    · rw [bufferRead_copied hlt hcopied]
      constructor
      · intro heq
        rw [List.getElem?_eq_getElem hcopied] at heq
        obtain ⟨hin, -⟩ := List.getElem?_eq_some_iff.mp heq.symm
        exact ⟨hin, fun hge => absurd hge (Nat.not_le_of_lt hcopied)⟩
      · exact fun hfile => h i hcopied hfile.1
    · rw [bufferRead_zero hlt hlen hpast]
      constructor
      · intro heq
        obtain ⟨hin, -⟩ := List.getElem?_eq_some_iff.mp heq.symm
        exact ⟨hin, fun _ => heq.symm⟩
      · exact fun hfile => (hfile.2 hpast).symm
  constructor
  · intro heq i hlt
    exact (hbyte i hlt).mp (congrArg (·[i]?) heq)
  · intro hfile
    apply List.ext_getElem?
    intro i
    rcases Nat.lt_or_ge i len with hlt | hge
    · exact (hbyte i hlt).mpr (hfile i hlt)
    · have hread : (bufferRead buffer len).length ≤ i := Nat.le_trans (List.length_take_le _ _) hge
      have hslice : (slice file start len).length ≤ i := Nat.le_trans (List.length_take_le _ _) hge
      rw [List.getElem?_eq_none hread, List.getElem?_eq_none hslice]

theorem image_snoc (blocks : List (Nat × List Byte)) (b : Nat × List Byte) :
    image (blocks ++ [b]) = (image blocks).take b.1 ++ b.2 := List.foldl_append

theorem Held.kept {t : Loader} (h : Held file s) (hk : Kept s t) : Held file t := by
  refine ⟨fun hlast => ?_⟩
  obtain ⟨heq, hbase⟩ := hk.base hlast
  rw [heq] at hlast ⊢
  rw [hk.buffer, hbase]
  exact h.held hlast

theorem Good.kept {t : Loader} (h : Good file s) (hk : Kept s t) : Good file t := by
  refine ⟨?_, ?_⟩
  · rw [hk.blocks]
    exact h.exact
  · rw [hk.blocks]
    exact h.whole

theorem send_held {behind : List Byte} {len : BitVec 16} {offset : BitVec 32} (h : Held file s) :
    Held file (v3SendLenBytes file behind len offset s) := by
  rw [v3SendLenBytes]
  split
  · exact ⟨h.held⟩
  · split
    · exact ⟨h.held⟩
    · exact ⟨fun _ => copied_copy behind _ _⟩

theorem step_held (h : Held file s) (e : Event) : Held file (step file s e) := by
  rcases step_cases file s e with ⟨now, behind, s', -, hsame, -, heq⟩ | ⟨-, hkept⟩
  · rw [heq]
    exact send_held (h.kept (hsame.trans (acked_same _ _ _)).kept)
  · exact h.kept hkept

theorem run_held (h : Held file s) (es : List Event) : Held file (run file s es) := by
  induction es generalizing s with
  | nil => exact h
  | cons e es ih => exact ih (step_held h e)

theorem sendBlock_good {offset : BitVec 32} {block : List Byte} (h : Good file s)
    (hblock : block = slice file (offset.toNat - s.base) block.length)
    (hnext : offset.toNat - s.base ≤ (image s.blocks).length) :
    Good file (sendBlock offset block s) := by
  refine ⟨?_, ?_⟩
  · intro b hb
    rcases List.mem_append.mp hb with hold | hnew
    · exact h.exact b hold
    · rw [List.mem_singleton.mp hnew]
      exact hblock
  · have hstart : (image s.blocks).take (offset.toNat - s.base) =
        file.take (offset.toNat - s.base) := by
      rw [h.whole, List.take_take, Nat.min_eq_left hnext]
    have himage : image (sendBlock offset block s).blocks =
        file.take (offset.toNat - s.base + block.length) := by
      rw [sendBlock, image_snoc, hstart, List.take_add]
      exact congrArg (file.take _ ++ ·) hblock
    rw [himage, List.length_take, List.take_eq_take_iff]
    omega

def Proper (file : List Byte) (s : Loader) : Prop :=
  s.link.newOffset ≠ noOffset ∧
    s.link.newOffset.toNat - s.base + s.link.newLen.toNat ≤ file.length ∧
    (s.link.newOffset = s.lastOffsetToSend → s.link.newLen.toNat ≤ s.byteBuffer.length) ∧
    s.link.newOffset.toNat - s.base ≤ (image s.blocks).length

instance (file : List Byte) : DecidablePred (Proper file) := fun _ =>
  inferInstanceAs (Decidable (_ ∧ _ ∧ _ ∧ _))

theorem send_good {behind : List Byte} {len : BitVec 16} {offset : BitVec 32}
    (hheld : Held file s) (h : Good file s) (hoffset : offset ≠ noOffset)
    (hin : offset.toNat - s.base + len.toNat ≤ file.length)
    (hagain : offset = s.lastOffsetToSend → len.toNat ≤ s.byteBuffer.length)
    (hnext : offset.toNat - s.base ≤ (image s.blocks).length) :
    Good file (v3SendLenBytes file behind len offset s) := by
  rw [v3SendLenBytes]
  split
  next heq =>
    have hle := hagain heq
    have hcount : (bufferRead s.byteBuffer len.toNat).length = len.toNat := by
      rw [bufferRead, List.take_append_of_le_length hle, List.length_take, Nat.min_eq_left hle]
    have hcopy : Copy file s.byteBuffer (offset.toNat - s.base) := heq ▸ hheld.held (heq ▸ hoffset)
    apply sendBlock_good h _ hnext
    rw [hcount]
    refine (hcopy.reads_iff (Nat.le_of_lt_succ len.isLt)).mpr fun i hi => ⟨by omega, fun hge => ?_⟩
    exact absurd (Nat.lt_of_lt_of_le hi hle) (Nat.not_lt_of_le hge)
  next =>
    split
    · exact ⟨h.exact, h.whole⟩
    next =>
      have hblock := copied_within behind hin
      have hcount : (copied file behind (offset.toNat - s.base) len.toNat).length = len.toNat :=
        copied_length behind _ _
      show Good file (sendBlock offset (copied file behind (offset.toNat - s.base) len.toNat) _)
      refine sendBlock_good ⟨h.exact, h.whole⟩ ?_ hnext
      rw [hcount]
      exact hblock

theorem step_good (hheld : Held file s) (h : Good file s) {e : Event}
    (hproper : ∀ s', wants s e = some s' → Proper file s') : Good file (step file s e) := by
  rcases step_cases file s e with ⟨now, behind, s', hwants, hsame, -, heq⟩ | ⟨-, hkept⟩
  · obtain ⟨hoffset, hin, hagain, hnext⟩ := hproper s' hwants
    have hkept := (hsame.trans (acked_same v3RequestAck now s')).kept
    rw [heq]
    exact send_good (hheld.kept hkept) (h.kept hkept) hoffset hin hagain hnext
  · exact h.kept hkept

theorem image_whole (es : List Event) (hbuffer : s.byteBuffer = []) (hblocks : s.blocks = [])
    (hproper : Throughout (Proper file) file s es) :
    (∀ b ∈ (run file s es).blocks, b.2 = slice file b.1 b.2.length) ∧
      image (run file s es).blocks = file.take (image (run file s es).blocks).length := by
  have hstart : Held file s ∧ Good file s :=
    ⟨⟨fun _ _ hi => by simp [hbuffer] at hi⟩, ⟨by simp [hblocks], by simp [hblocks, image]⟩⟩
  have hrun := run_throughout (I := fun s => Held file s ∧ Good file s)
    (fun _ e h hp => ⟨step_held h.1 e, step_good h.1 h.2 hp⟩) es hstart hproper
  exact ⟨hrun.2.exact, hrun.2.whole⟩

def dataReq (len : BitVec 16) (offset : BitVec 32) (error : BitVec 16) : Event :=
  let body := le16 len ++ le32 offset ++ le16 error
  .frame v3HeaderDataReq (body ++ [crc8 (v3HeaderDataReq :: body)]) 1#64 []

def started : Loader := ⟨freshLink, [], 0#32, 0#32, 0, 16, .running, []⟩

def shortFile : List Byte := [0x05#8, 0x00#8, 0x07#8]

def damagedReq : Event := .frame v3HeaderDataReq (List.replicate 9 0x01#8) 2#64 []

def askedAll : List Event :=
  [dataReq 2#16 16#32 0#16, damagedReq, dataReq 2#16 16#32 0#16, dataReq 1#16 18#32 0#16]

theorem askedAll_whole :
    (run shortFile started askedAll).blocks =
        [(0, [0x05#8, 0x00#8]), (0, [0x05#8, 0x00#8]), (2, [0x07#8])] ∧
      image (run shortFile started askedAll).blocks =
        shortFile.take (image (run shortFile started askedAll).blocks).length :=
  ⟨by decide +kernel, (image_whole askedAll rfl rfl (by decide +kernel)).2⟩

theorem resent_right_iff (es : List Event) (hbuffer : s.byteBuffer = []) {t : Loader}
    (ht : t = run file s es) (hlast : t.lastOffsetToSend ≠ noOffset) (behind : List Byte)
    (len : BitVec 16) {start : Nat} (hstart : start = t.lastOffsetToSend.toNat - t.base) :
    (v3SendLenBytes file behind len t.lastOffsetToSend t).blocks =
        t.blocks ++ [(start, slice file start len.toNat)] ↔
      ∀ i, i < len.toNat → start + i < file.length ∧
        (t.byteBuffer.length ≤ i → file[start + i]? = some 0#8) := by
  have hheld : Held file t := by
    rw [ht]
    exact run_held ⟨fun _ _ hi => by simp [hbuffer] at hi⟩ es
  have hcopy : Copy file t.byteBuffer start := hstart ▸ hheld.held hlast
  have hblocks : (v3SendLenBytes file behind len t.lastOffsetToSend t).blocks =
      t.blocks ++ [(start, bufferRead t.byteBuffer len.toNat)] := by
    rw [v3SendLenBytes, if_pos rfl, hstart]
    rfl
  rw [hblocks, ← hcopy.reads_iff (Nat.le_of_lt_succ len.isLt)]
  simp

def served : Loader := run shortFile started [dataReq 2#16 16#32 0#16]

theorem served_resent_wrong :
    (v3SendLenBytes shortFile [] 3#16 served.lastOffsetToSend served).blocks ≠
      served.blocks ++ [(0, slice shortFile 0 (3#16).toNat)] := by
  have hlast : served.lastOffsetToSend ≠ noOffset := by decide +kernel
  have hstart : 0 = served.lastOffsetToSend.toNat - served.base := by decide +kernel
  have hcopied : served.byteBuffer.length ≤ 2 := by decide +kernel
  have hiff := resent_right_iff [dataReq 2#16 16#32 0#16] rfl (rfl : served = _) hlast [] 3#16 hstart
  intro hright
  have hzero := (hiff.mp hright 2 (by decide)).2 hcopied
  exact absurd hzero (by decide)

theorem restart_refused_iff {e e' : Event} {es : List Event} {t t' : Loader}
    (hrun : s.status = .running) (hreport : reportsMicFail s e)
    (hafter : (step file s e).status = .running)
    (hquiet : Throughout (fun _ => False) file (step file s e) es)
    (ht : t = run file (step file s e) es) (hwants : wants t e' = some t')
    (hzero : t'.link.newOffset = 0#32) :
    (step file t e').status = .exited ↔ 0 < s.cmd7ChangeTimeoutLen := by
  have hrestarted : Restarted s t := by
    rw [ht]
    refine run_throughout (fun u e h hnone => ?_) es (step_restarted hreport hrun hafter) hquiet
    rcases step_cases file u e with ⟨_, _, u', hu, -⟩ | ⟨-, hkept⟩
    · exact (hnone u' hu).elim
    · exact h.kept hkept
  rcases step_cases file t e' with ⟨now, behind, u, hu, hsame, -, heq⟩ | ⟨hnone, -⟩
  · obtain rfl : u = t' := Option.some.inj (hu.symm.trans hwants)
    have hacked : (acked v3RequestAck now u).status = .running := acked_running (wants_running hu)
    have hkept := (hsame.trans (acked_same v3RequestAck now u)).kept
    have hagain := hrestarted.kept hkept
    have hlast : u.link.newOffset ≠ (acked v3RequestAck now u).lastOffsetToSend := by
      rw [hzero, hagain.last]
      decide
    have hbase : (acked v3RequestAck now u).base = s.cmd7ChangeTimeoutLen := by
      rw [Loader.base, hagain.baudrate, hagain.timeout, Nat.zero_add]
    rw [heq, v3SendLenBytes, if_neg hlast, hzero, hbase]
    split
    next hlow => exact ⟨fun _ => hlow, fun _ => rfl⟩
    next hhigh =>
      constructor
      · exact fun hexit => absurd (hacked.symm.trans hexit) (by decide)
      · exact fun hpos => absurd hpos hhigh
  · rw [hwants] at hnone
    cases hnone

theorem started_restart_refused :
    (step shortFile (run shortFile (step shortFile started (dataReq 2#16 16#32 0x80#16)) [])
      (dataReq 2#16 0#32 0#16)).status = .exited := by
  have hwants : wants (run shortFile (step shortFile started (dataReq 2#16 16#32 0x80#16)) [])
      (dataReq 2#16 0#32 0#16) = some (heard v3HeaderDataReq
        [0x02#8, 0x00#8, 0x00#8, 0x00#8, 0x00#8, 0x00#8, 0x00#8, 0x00#8,
          crc8 [0xa7#8, 0x02#8, 0x00#8, 0x00#8, 0x00#8, 0x00#8, 0x00#8, 0x00#8, 0x00#8]] 1#64
        (step shortFile started (dataReq 2#16 16#32 0x80#16))) := by
    decide +kernel
  have hreport : reportsMicFail started (dataReq 2#16 16#32 0x80#16) :=
    ⟨by decide +kernel, by decide +kernel⟩
  have hafter : (step shortFile started (dataReq 2#16 16#32 0x80#16)).status = .running := by
    decide +kernel
  have hquiet : Throughout (fun _ => False) shortFile
      (step shortFile started (dataReq 2#16 16#32 0x80#16)) [] := trivial
  exact (restart_refused_iff rfl hreport hafter hquiet rfl hwants (by decide +kernel)).mpr
    (by decide)

end FwLoader
