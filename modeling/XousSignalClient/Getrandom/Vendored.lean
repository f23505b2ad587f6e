import XousSignalClient.Getrandom
import XousSignalClient.Interaction.Embedding

namespace XousSignalClient.Getrandom.Vendored

open Encoding Interaction Fallible

/-- The page that is lent to the TRNG; the server fills `len` words. -/
structure TrngBuf where
  data : List UInt32
  len : UInt16
  full : data.length = 1020

def TrngBuf.zeroed (len : UInt16) : TrngBuf := ⟨List.replicate 1020 0, len, List.length_replicate⟩

inductive PageCall where
  | scalar (c : XousCall)
  | lend_mut (conn : UInt32) (opcode : ℕ) (buf : TrngBuf)

def PageCall.Reply : PageCall → Type
  | scalar c => c.Reply
  | lend_mut _ _ _ => Option TrngBuf

def pageSignature : Signature := ⟨PageCall, PageCall.Reply⟩

inductive PagePanic where
  | scalar (p : Panic)
  | assertion
  | lendFailed
  | outOfRange

abbrev PageProgram (α : Type) := Fallible pageSignature PagePanic α

/-- `ensure_trng_conn` and `fill_bytes_via_next` are the same code in the crate and in the client's own backend. -/
def scalars {α : Type} (x : XousProgram α) : PageProgram α :=
  Fallible.mapError .scalar
    (ExceptT.mk (x.run.interp (fun c => Program.perform (S := pageSignature) (.scalar c))))

def FILL_TRNG : ℕ := 1

def lend_mut (buf : TrngBuf) : PageProgram TrngBuf := do
  let conn ← scalars (perform .load_conn)
  let lent : Option TrngBuf ← Fallible.call (S := pageSignature) (.lend_mut conn FILL_TRNG buf)
  match lent with
  | some buf => pure buf
  | none => throw .lendFailed

def fill_buf (words : ℕ) : PageProgram (List UInt32) :=
  if 1020 < words then throw .assertion
  else do
    let buf ← lend_mut (.zeroed (UInt16.ofNat words))
    if buf.len.toNat = words then pure (buf.data.take words) else throw .assertion

def fill_remainder (remainder : Bytes) : PageProgram Bytes :=
  if remainder.length ≠ 0 then do
    let words := if remainder.length % 4 = 0 then remainder.length / 4 else 1 + remainder.length / 4
    let buf ← lend_mut (.zeroed (UInt16.ofNat words))
    let ret_u8 := buf.data.flatMap u32_to_ne_bytes
    if remainder.length ≤ ret_u8.length then pure (ret_u8.take remainder.length) else throw .outOfRange
  else pure remainder

def fill_chunks (dest : Bytes) : PageProgram Bytes :=
  if 4096 ≤ dest.length then do
    let chunk ← fill_buf ((dest.take 4096).length / 4)
    let rest ← fill_chunks (dest.drop 4096)
    pure (chunk.flatMap u32_to_ne_bytes ++ rest)
  else fill_remainder dest
termination_by dest.length
decreasing_by
  simp only [List.length_drop]
  omega

def fill_bytes (dest : Bytes) : PageProgram Bytes :=
  if dest.length < 64 then scalars (fill_from_trng dest) else fill_chunks dest

def getrandom_inner (dest : Bytes) : PageProgram Bytes :=
  if dest.isEmpty then pure dest
  else do
    scalars ensure_trng_conn
    fill_bytes dest

/-! A TRNG that fills a page it is lent from the words of its next answer. -/

def TrngBuf.served (buf : TrngBuf) (words : ℕ → UInt32) : TrngBuf where
  data := (List.range 1020).map (fun i => if i < buf.len.toNat then words i else buf.data.getD i 0)
  len := buf.len
  full := by rw [List.length_map, List.length_range]

def pageAnswer (answers : ℕ → UInt32 × UInt32) (pages : ℕ → ℕ → UInt32) : (c : PageCall) → Trng → c.Reply × Trng
  | .scalar c, s => trngAnswer answers c s
  | .lend_mut _ _ buf, s => (some (buf.served (pages s.answered)), { s with answered := s.answered + 1 })

def pagedTrng (answers : ℕ → UInt32 × UInt32) (pages : ℕ → ℕ → UInt32) : Handler pageSignature Trng :=
  ⟨pageAnswer answers pages⟩

def pageBytes (words : ℕ → UInt32) (n : ℕ) : Bytes :=
  (List.range n).map (fun i => (words (i / 4) >>> UInt32.ofNat (8 * (i % 4))).toUInt8)

section Pages

theorem pageBytes_flatMap (words : ℕ → UInt32) (m : ℕ) :
    ((List.range m).map words).flatMap u32_to_ne_bytes = pageBytes words (m * 4) := by
  induction m with
  | zero => rfl
  | succ m ih =>
    have hword : (List.range 4).map
        ((fun i => (words (i / 4) >>> UInt32.ofNat (8 * (i % 4))).toUInt8) ∘ (m * 4 + ·)) =
          u32_to_ne_bytes (words m) := by
      apply List.map_congr_left
      intro j hj
      rw [List.mem_range] at hj
      have hdiv : (m * 4 + j) / 4 = m := by omega
      have hmod : (m * 4 + j) % 4 = j := by omega
      simp only [Function.comp_apply, hdiv, hmod]
    rw [List.range_succ, List.map_append, List.flatMap_append, ih, Nat.add_mul, pageBytes, pageBytes, List.range_add,
      List.map_append, List.map_map, Nat.one_mul, hword]
    rfl

theorem take_pageBytes (words : ℕ → UInt32) {n m : ℕ} (h : n ≤ m) :
    (pageBytes words m).take n = pageBytes words n := by
  rw [pageBytes, ← List.map_take, List.take_range, Nat.min_eq_left h]
  rfl

theorem pageBytes_congr {words words' : ℕ → UInt32} {n : ℕ} (h : ∀ k, 4 * k < n → words k = words' k) :
    pageBytes words n = pageBytes words' n := by
  apply List.map_congr_left
  intro i hi
  rw [List.mem_range] at hi
  rw [h (i / 4) (by omega)]

theorem length_bytes (buf : TrngBuf) : (buf.data.flatMap u32_to_ne_bytes).length = 4080 := by
  have hword : ∀ w ∈ buf.data, (u32_to_ne_bytes w).length = 4 := by
    intro w _
    simp [u32_to_ne_bytes]
  rw [List.length_flatMap, List.map_congr_left hword, List.map_const', List.sum_replicate_nat, buf.full]

end Pages

section Runs

variable {σ : Type}

theorem ensures_fill_chunks {h : Handler pageSignature σ} {s : σ} {dest : Bytes} (hlong : 4080 < dest.length) :
    Ensures h (fill_chunks dest) s (fun v _ _ => ∃ p, v = .error p) := by
  rw [fill_chunks]
  split_ifs with hchunk
  · have hwords : 1020 < (dest.take 4096).length / 4 := by
      rw [List.length_take, Nat.min_eq_left hchunk]
      omega
    rw [fill_buf, if_pos hwords]
    exact ⟨_, rfl⟩
  · have hsome : dest.length ≠ 0 := by omega
    rw [fill_remainder, if_pos hsome]
    apply ensures_bind (P := fun _ _ _ => True) trivial
    · exact fun p t es _ => ⟨p, rfl⟩
    · intro buf t es _
      simp only
      rw [if_neg (by rw [length_bytes]; omega)]
      exact ensures_throw ⟨_, rfl⟩

theorem ensures_getrandom_inner {h : Handler pageSignature σ} {s : σ} {dest : Bytes} (hlong : 4080 < dest.length) :
    Ensures h (getrandom_inner dest) s (fun v _ _ => ∃ p, v = .error p) := by
  have hsome : ¬dest.isEmpty = true := by
    rw [List.isEmpty_iff]
    rintro rfl
    cases hlong
  rw [getrandom_inner, if_neg hsome]
  apply ensures_bind (P := fun _ _ _ => True) trivial
  · exact fun p t es _ => ⟨p, rfl⟩
  · intro u t es _
    rw [fill_bytes, if_neg (by omega)]
    exact ensures_fill_chunks hlong

variable (answers : ℕ → UInt32 × UInt32) (pages : ℕ → ℕ → UInt32)

def liftEvent (e : Event xousSignature Trng) : Event pageSignature Trng := ⟨e.before, .scalar e.call, e.reply⟩

theorem exec_scalars {α : Type} (x : XousProgram α) (s : Trng) :
    ((scalars x).exec (pagedTrng answers pages) s).value = (x.exec (trng answers) s).value.mapError .scalar ∧
      ((scalars x).exec (pagedTrng answers pages) s).state = (x.exec (trng answers) s).state := by
  have hperform : ∀ (c : XousCall) (t : Trng),
      (Program.perform (S := pageSignature) (.scalar c)).run (pagedTrng answers pages) t =
        ⟨((trng answers).answer c t).1, ((trng answers).answer c t).2,
          [liftEvent ⟨t, c, ((trng answers).answer c t).1⟩]⟩ := fun c t => rfl
  have hrun := Program.run_interp_events hperform x.run s
  rw [scalars, exec_mapError]
  constructor
  · exact congrArg (fun o => Except.mapError PagePanic.scalar o.value) hrun
  · exact congrArg (fun o => o.state) hrun

theorem ensures_lend_mut (buf : TrngBuf) (s : Trng) :
    Ensures (pagedTrng answers pages) (lend_mut buf) s
      (fun v _ _ => v = .ok (buf.served (pages s.answered))) := rfl

theorem take_served (words : ℕ → UInt32) {len n : ℕ} (hlen : len < 2 ^ 16) (hcovers : n ≤ 4 * len) (hfits : n ≤ 4080) :
    (((TrngBuf.zeroed (UInt16.ofNat len)).served words).data.flatMap u32_to_ne_bytes).take n = pageBytes words n := by
  have hnat : (UInt16.ofNat len).toNat = len := by
    rw [UInt16.toNat_ofNat', Nat.mod_eq_of_lt hlen]
  rw [TrngBuf.served, pageBytes_flatMap, take_pageBytes _ (by omega)]
  apply pageBytes_congr
  intro k hk
  exact if_pos (show k < (UInt16.ofNat len).toNat by omega)

theorem ensures_fill_remainder {dest : Bytes} (hfits : dest.length ≤ 4080) (s : Trng) :
    Ensures (pagedTrng answers pages) (fill_remainder dest) s
      (fun v _ _ => v = .ok (pageBytes (pages s.answered) dest.length)) := by
  unfold fill_remainder
  by_cases hsome : dest.length ≠ 0
  · rw [if_pos hsome]
    have hwords : (if dest.length % 4 = 0 then dest.length / 4 else 1 + dest.length / 4) < 2 ^ 16 ∧
        dest.length ≤ 4 * (if dest.length % 4 = 0 then dest.length / 4 else 1 + dest.length / 4) := by
      split_ifs <;> omega
    apply ensures_bind (ensures_lend_mut answers pages _ s)
    · intro p t es hp
      cases hp
    · intro buf t es hbuf
      obtain rfl := Except.ok.inj hbuf
      simp only
      rw [if_pos (by rw [length_bytes]; exact hfits)]
      exact ensures_pure (congrArg Except.ok (take_served _ hwords.1 hwords.2 hfits))
  · rw [if_neg hsome]
    obtain rfl := List.eq_nil_of_length_eq_zero (not_not.mp hsome)
    exact ensures_pure rfl

theorem ensures_fill_bytes {dest : Bytes} (hfits : dest.length ≤ 4080) (s : Trng) :
    Ensures (pagedTrng answers pages) (fill_bytes dest) s (fun v _ _ => v = .ok
      (if dest.length < 64 then freshBytes (fun k => answers (s.answered + k)) dest.length
        else pageBytes (pages s.answered) dest.length)) := by
  unfold fill_bytes
  split_ifs with hshort
  · obtain ⟨s', es, -, hfill⟩ := fill_from_trng_exec answers dest s
    have hvalue := (exec_scalars answers pages (fill_from_trng dest) s).1
    rw [hfill] at hvalue
    exact hvalue
  · rw [fill_chunks, if_neg (by omega)]
    exact ensures_fill_remainder answers pages hfits s

def entropy (n : ℕ) : Bytes := if n < 64 then freshBytes answers n else pageBytes (pages 0) n

theorem ensures_inner_fits {dest : Bytes} (hfits : dest.length ≤ 4080) (conn : UInt32) :
    Ensures (pagedTrng answers pages) (getrandom_inner dest) ⟨conn, 0⟩
      (fun v _ _ => v = .ok (entropy answers pages dest.length)) := by
  unfold getrandom_inner
  split_ifs with hempty
  · obtain rfl := List.isEmpty_iff.mp hempty
    exact ensures_pure rfl
  · obtain ⟨conn', es, -, hconn⟩ := ensure_trng_conn_exec answers conn
    obtain ⟨hvalue, hstate⟩ := exec_scalars answers pages ensure_trng_conn ⟨conn, 0⟩
    rw [hconn] at hvalue hstate
    have hready : Ensures (pagedTrng answers pages) (scalars ensure_trng_conn) ⟨conn, 0⟩
        (fun v t _ => v = .ok () ∧ t = ⟨conn', 0⟩) := ⟨hvalue, hstate⟩
    apply ensures_bind hready
    · rintro p t es' ⟨⟨⟩, -⟩
    · rintro u t es' ⟨-, rfl⟩
      have hfill := ensures_fill_bytes answers pages hfits ⟨conn', 0⟩
      have hstream : (fun k => answers (0 + k)) = answers := by
        funext k
        rw [Nat.zero_add]
      rw [hstream] at hfill
      exact hfill

/-- Every byte of a request that fits one page is fresh; a longer request panics, however the TRNG behaves. -/
theorem getrandom_inner_fills (conn : UInt32) (dest : Bytes) :
    (dest.length ≤ 4080 → ((getrandom_inner dest).exec (pagedTrng answers pages) ⟨conn, 0⟩).value =
        .ok (entropy answers pages dest.length)) ∧
      (4080 < dest.length → ∀ (σ : Type) (h : Handler pageSignature σ) (s : σ),
        ∃ p, ((getrandom_inner dest).exec h s).value = .error p) :=
  ⟨fun hfits => ensures_inner_fits answers pages hfits conn,
    fun hlong _ _ _ => ensures_getrandom_inner hlong⟩

end Runs

end XousSignalClient.Getrandom.Vendored
