import PlantAssistant.Firmware.CheckedPort

/-! # Memory safety of the UART receive loops

A parse that dispatches a frame starts again at index zero, on a shorter buffer.
What bounds its passes is the length together with the bytes behind the index.
Every read of a pass stands behind a test of the length.
-/

namespace PlantAssistant.Firmware

open Iteration

namespace CheckedPort

variable (port : CheckedPort) {σ : Type} (dataProc : Memory → ℕ → σ → σ)

/-- The length is a `uint16_t` and the index has not run past it. -/
def Indexed (state : RxBuffer × ℕ × σ) : Prop :=
  state.1.length < 2 ^ 16 ∧ state.2.1 ≤ state.1.length

/-- The length and the bytes behind the index. -/
def ahead (state : RxBuffer × ℕ × σ) : ℕ :=
  state.1.length + (state.1.length - state.2.1)

/-- The result is that of the unchecked loop. -/
def Agrees (state : RxBuffer × ℕ × σ) (out : RxBuffer × σ) : Prop :=
  out = port.tryParseFrom dataProc state.1 state.2.1 state.2.2

variable {b : RxBuffer} {i : ℕ} {s : σ}

theorem pass_header (hindexed : Indexed (b, i, s)) (hi : i < b.length)
    (hhead : ¬ b.bytes i ≠ port.head) :
    Pass (port.tryParsePass dataProc) Indexed ahead (port.Agrees dataProc) (b, i, s) := by
  obtain ⟨hword, -⟩ := hindexed
  dsimp only at hword
  cases hsize : port.frameSize b i with
  | some size =>
      have hle := port.frameSize_le hsize
      have hpos := port.frameSize_pos hsize
      have hmod : (i + size) % 2 ^ 16 = i + size := Nat.mod_eq_of_lt (by omega)
      have hlength := b.length_shiftLeft (i + size)
      refine .next (b.shiftLeft (i + size), 0, dataProc (fun k => b.bytes (i + k)) size s)
        ?_ ⟨?_, ?_⟩ ?_ fun out hout => ?_
      · rw [tryParsePass, if_pos hi, b.read_eq hi, pure_bind, if_neg hhead, port.findFrame_eq,
          hsize, pure_bind]
        simp only [hmod]
      · dsimp only
        omega
      · exact Nat.zero_le _
      · simp only [ahead]
        omega
      · exact Eq.trans hout (port.tryParseFrom_accept hi hhead hsize s).symm
  | none =>
      refine .leave (if 0 < i then b.shiftLeft i else b, s) ?_ ?_
      · rw [tryParsePass, if_pos hi, b.read_eq hi, pure_bind, if_neg hhead, port.findFrame_eq,
          hsize, pure_bind]
      · exact (port.tryParseFrom_wait hi hhead hsize s).symm

theorem pass_tryParse (state : RxBuffer × ℕ × σ) (hindexed : Indexed state) :
    Pass (port.tryParsePass dataProc) Indexed ahead (port.Agrees dataProc) state := by
  obtain ⟨b, i, s⟩ := state
  by_cases hi : i < b.length
  · by_cases hhead : b.bytes i ≠ port.head
    · obtain ⟨hword, -⟩ := hindexed
      dsimp only at hword
      have hmod : (i + 1) % 2 ^ 16 = i + 1 := Nat.mod_eq_of_lt (by omega)
      refine .next (b, i + 1, s) ?_ ⟨hword, hi⟩ ?_ fun out hout => ?_
      · rw [tryParsePass, if_pos hi, b.read_eq hi, pure_bind, if_pos hhead, hmod]
      · simp only [ahead]
        omega
      · exact Eq.trans hout (port.tryParseFrom_skip hi hhead s).symm
    · exact port.pass_header dataProc hindexed hi hhead
  · refine .leave (Port.keepLast b, s) ?_ (port.tryParseFrom_stop hi s).symm
    rw [tryParsePass, if_neg hi]
    unfold Port.keepLast
    split
    next hlong => rw [b.read_eq (by omega), pure_bind]
    next => rfl

/-- On every buffer the parse returns, and it returns what the unchecked loop
leaves. -/
theorem checkedTryParse_eq {fuel : ℕ} (hword : b.length < 2 ^ 16) (hfuel : 2 * b.length < fuel) :
    port.checkedTryParse dataProc fuel b s = pure (port.tryParse dataProc b s) := by
  have hahead : ahead (b, 0, s) < fuel := by
    simp only [ahead]
    omega
  obtain ⟨out, hloop, hout⟩ := loop_returns (port.pass_tryParse dataProc)
    (s := (b, 0, s)) ⟨hword, Nat.zero_le _⟩ hahead
  rw [checkedTryParse, hloop, hout]
  rfl

theorem length_tryParse_le : (port.tryParse dataProc b s).1.length ≤ b.length :=
  port.length_tryParseFrom_le dataProc b 0 s

theorem checkedRxEntry_eq {fuel : ℕ} (hfuel : 2 * uartMaxLen < fuel) (state : RxBuffer × σ)
    (hstate : state.1.length ≤ uartMaxLen) {chunk : List UInt8}
    (hchunk : chunk.length ≤ uartMaxLen) :
    port.checkedRxEntry dataProc fuel state chunk = pure (port.rxEntry dataProc state chunk) ∧
      (port.rxEntry dataProc state chunk).1.length ≤ uartMaxLen := by
  unfold checkedRxEntry Port.rxEntry
  split
  next =>
    obtain ⟨hcopy, hroom⟩ := state.1.copyIn_eq hchunk
    refine ⟨?_, (port.length_tryParse_le dataProc).trans hroom⟩
    rw [hcopy, liftM_pure, pure_bind]
    exact port.checkedTryParse_eq dataProc (hroom.trans_lt (by decide)) (by omega)
  next => exact ⟨rfl, hstate⟩

/-- Reads of at most a buffer's length keep the buffer within its size. -/
theorem foldlM_checkedRxEntry {fuel : ℕ} (hfuel : 2 * uartMaxLen < fuel)
    (chunks : List (List UInt8)) (hchunks : ∀ chunk ∈ chunks, chunk.length ≤ uartMaxLen)
    (state : RxBuffer × σ) (hstate : state.1.length ≤ uartMaxLen) :
    chunks.foldlM (port.checkedRxEntry dataProc fuel) state =
        pure (chunks.foldl (port.rxEntry dataProc) state) ∧
      (chunks.foldl (port.rxEntry dataProc) state).1.length ≤ uartMaxLen := by
  induction chunks generalizing state with
  | nil => exact ⟨rfl, hstate⟩
  | cons chunk chunks ih =>
      obtain ⟨hentry, hlength⟩ := port.checkedRxEntry_eq dataProc hfuel state hstate
        (hchunks chunk List.mem_cons_self)
      have hrest := ih (fun c hc => hchunks c (List.mem_cons_of_mem chunk hc)) _ hlength
      rwa [List.foldlM_cons, hentry, pure_bind, List.foldl_cons]

end CheckedPort

/-- A port's parse returns on every buffer, without a fault and with no more
bytes than it was given, and so does its receive loop on every run of reads that
the driver can return, with no more bytes than the buffer holds. -/
structure ReceivesSafely {σ : Type} (port : CheckedPort) (dataProc : Memory → ℕ → σ → σ) :
    Prop where
  parses (b : RxBuffer) (s : σ) (fuel : ℕ) (hword : b.length < 2 ^ 16)
    (hfuel : 2 * b.length < fuel) :
    port.checkedTryParse dataProc fuel b s = pure (port.tryParse dataProc b s) ∧
      (port.tryParse dataProc b s).1.length ≤ b.length
  receives (chunks : List (List UInt8)) (memory : Memory) (s : σ) (fuel : ℕ)
    (hchunks : ∀ chunk ∈ chunks, 1 ≤ chunk.length ∧ chunk.length ≤ uartMaxLen)
    (hfuel : 2 * uartMaxLen < fuel) :
    chunks.foldlM (port.checkedRxEntry dataProc fuel) (⟨memory, 0⟩, s) =
        pure (chunks.foldl (port.rxEntry dataProc) (⟨memory, 0⟩, s)) ∧
      (chunks.foldl (port.rxEntry dataProc) (⟨memory, 0⟩, s)).1.length ≤ uartMaxLen

theorem CheckedPort.receivesSafely {σ : Type} (port : CheckedPort)
    (dataProc : Memory → ℕ → σ → σ) : ReceivesSafely port dataProc where
  parses _ _ _ hword hfuel :=
    ⟨port.checkedTryParse_eq dataProc hword hfuel, port.length_tryParse_le dataProc⟩
  receives chunks memory s _ hchunks hfuel :=
    port.foldlM_checkedRxEntry dataProc hfuel chunks (fun chunk hc => (hchunks chunk hc).2)
      (⟨memory, 0⟩, s) (Nat.zero_le _)

theorem uart_receivesSafely :
    ReceivesSafely uart4CheckedPort maixcamDataProc ∧
      ReceivesSafely uart5CheckedPort plantSoftDataProc :=
  ⟨uart4CheckedPort.receivesSafely maixcamDataProc,
    uart5CheckedPort.receivesSafely plantSoftDataProc⟩

end PlantAssistant.Firmware
