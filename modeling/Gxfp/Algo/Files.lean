/-
Reading a whole file: `gxfp_read_file_all` of `src/algo/common.c`.

`fread` delivers blocks of at most 1024 bytes until it delivers none.  A buffer that has no
room for a block is doubled until it has, up to a limit that is looked at before each
doubling and not after it.  So what can be read is twice what the limit says
(`growCap_eq`), and every byte of it ends up where it was in the file, wherever the blocks
begin (`readFileAll_eq`).
-/
import Gxfp.Algo.Common

namespace Gxfp

open Bytes Checked

/-- An open file: what `fread` delivers, and whether an error ends it. -/
structure File where
  blocks : List (List UInt8)
  ferror : Bool
  some_bytes : ∀ b ∈ blocks, b ≠ []
  tmp : ∀ b ∈ blocks, b.length ≤ 1024

/-- A capacity of the buffer. -/
abbrev Cap := { n : Nat // 0 < n }

def Cap.double (newCap : Cap) : Cap := ⟨newCap.val * 2, Nat.mul_pos newCap.property (by decide)⟩

/-- The loop that doubles `new_cap`. -/
def growCap (need : Nat) (newCap : Cap) : Option Cap :=
  if newCap.val < need then
    if 64 * 1024 * 1024 < newCap.val then none else growCap need newCap.double
  else some newCap
termination_by need - newCap.val
decreasing_by
  rename_i hfull _
  refine Nat.sub_lt_sub_left hfull ?_
  exact (Nat.lt_mul_iff_one_lt_right newCap.property).mpr (by decide)

/-- The loop of `gxfp_read_file_all`: the bytes that were read. -/
def readBlocks (mem : Realloc) : List (List UInt8) → Nat → Cap → List UInt8 →
    Check (Except Errno (List UInt8))
  | [], len, _, buf => .ok (.ok (buf.take len))
  | tmp :: rest, len, cap, buf =>
    if cap.val < len + tmp.length then
      match growCap (len + tmp.length) cap with
      | none => .ok (.error .overflow)
      | some newCap =>
        match mem.resize buf newCap.val with
        | none => .ok (.error .nomem)
        | some p => do
          let buf ← store p len tmp
          readBlocks mem rest (len + tmp.length) newCap buf
    else do
      let buf ← store buf len tmp
      readBlocks mem rest (len + tmp.length) cap buf

/-- `gxfp_read_file_all`, on what `fopen` has opened. -/
def readFileAll (mem : Realloc) (f : Except Errno File) : Check (Except Errno (List UInt8)) :=
  match f with
  | .error e => .ok (.error e)
  | .ok f =>
    match mem.resize [] 4096 with
    | none => .ok (.error .nomem)
    | some buf => do
      match ← readBlocks mem f.blocks 0 ⟨4096, by decide⟩ buf with
      | .error e => pure (.error e)
      | .ok out => if f.ferror then pure (.error .io) else pure (.ok out)

/-! ### The capacities -/

/-- The longest file. -/
def fileMax : Nat := 128 * 1024 * 1024

/-- The capacity after `k` doublings. -/
def capAfter (k : Nat) : Cap := ⟨4096 * 2 ^ k, Nat.mul_pos (by decide) (Nat.two_pow_pos k)⟩

theorem double_capAfter (k : Nat) : (capAfter k).double = capAfter (k + 1) := by
  refine Subtype.ext ?_
  show 4096 * 2 ^ k * 2 = 4096 * 2 ^ (k + 1)
  rw [Nat.pow_succ, Nat.mul_assoc]

theorem capAfter_le {j k : Nat} (h : j ≤ k) : (capAfter j).val ≤ (capAfter k).val :=
  Nat.mul_le_mul_left 4096 (Nat.pow_le_pow_right (by decide) h)

/-- **The buffer grows until there is room, up to twice the limit.** -/
theorem growCap_eq {k : Nat} (hk : k ≤ 15) (need : Nat) :
    (need ≤ fileMax → ∃ j, k ≤ j ∧ j ≤ 15 ∧ growCap need (capAfter k) = some (capAfter j) ∧
        need ≤ (capAfter j).val) ∧
      (fileMax < need → growCap need (capAfter k) = none) := by
  have hmax : (capAfter 15).val = fileMax := by decide
  have hlimit : (capAfter 14).val = 64 * 1024 * 1024 := by decide
  induction hleft : 15 - k generalizing k with
  | zero =>
      have hlast : k = 15 := by omega
      subst hlast
      have hover : 64 * 1024 * 1024 < (capAfter 15).val := by decide
      constructor
      · intro hneed
        refine ⟨15, Nat.le_refl 15, Nat.le_refl 15, ?_, by omega⟩
        rw [growCap, if_neg (by omega)]
      · intro hneed
        rw [growCap, if_pos (by omega), if_pos hover]
  | succ n ih =>
      have hunder : ¬ 64 * 1024 * 1024 < (capAfter k).val := by
        have hle : (capAfter k).val ≤ (capAfter 14).val := capAfter_le (by omega)
        omega
      have hle : (capAfter k).val ≤ fileMax := hmax ▸ capAfter_le (by omega)
      obtain ⟨hok, hnone⟩ := ih (k := k + 1) (by omega) (by omega)
      constructor
      · intro hneed
        by_cases hroom : (capAfter k).val < need
        · obtain ⟨j, hkj, hj, hgrow, hfits⟩ := hok hneed
          refine ⟨j, by omega, hj, ?_, hfits⟩
          rw [growCap, if_pos hroom, if_neg hunder, double_capAfter, hgrow]
        · refine ⟨k, Nat.le_refl k, by omega, ?_, by omega⟩
          rw [growCap, if_neg hroom]
      · intro hneed
        rw [growCap, if_pos (by omega), if_neg hunder, double_capAfter, hnone hneed]

/-! ### The contents -/

/-- What there is to be read of a file. -/
def File.contents (f : File) : Except Errno (List UInt8) :=
  if fileMax < f.blocks.flatten.length then .error .overflow
  else if f.ferror then .error .io
  else .ok f.blocks.flatten

/-- There is no memory for some buffer. -/
def Realloc.Refuses (mem : Realloc) : Prop := ∃ n, mem.room n = false

section Contents

variable {mem : Realloc}

theorem refuses_of_none {block : List UInt8} {n : Nat} (h : mem.resize block n = none) :
    mem.Refuses := by
  unfold Realloc.resize at h
  cases hroom : mem.room n with
  | false => exact ⟨n, hroom⟩
  | true => simp [hroom] at h

/-- A block is stored behind what has been read. -/
theorem store_block {buf done tmp : List UInt8} (hdone : buf.take done.length = done)
    (hroom : done.length + tmp.length ≤ buf.length) :
    ∃ buf', store buf done.length tmp = .ok buf' ∧ buf'.length = buf.length ∧
      buf'.take (done ++ tmp).length = done ++ tmp := by
  refine ⟨_, store_of_le hroom, length_overwrite hroom, ?_⟩
  rw [overwrite, hdone, List.take_left]

variable (mem) in
/-- **However the file is cut into blocks, the loop puts them together again.** -/
theorem readBlocks_eq (blocks : List (List UInt8)) {done buf : List UInt8} {k : Nat}
    (hk : k ≤ 15) (hlen : buf.length = (capAfter k).val) (hfill : done.length ≤ buf.length)
    (hdone : buf.take done.length = done) :
    ∃ r, readBlocks mem blocks done.length (capAfter k) buf = .ok r ∧
      (r = (if fileMax < (done ++ blocks.flatten).length then .error .overflow
          else .ok (done ++ blocks.flatten)) ∨ r = .error .nomem ∧ mem.Refuses) := by
  induction blocks generalizing done buf k with
  | nil =>
      have hle : (capAfter k).val ≤ (capAfter 15).val := capAfter_le hk
      have hmax : (capAfter 15).val = fileMax := by decide
      refine ⟨_, rfl, Or.inl ?_⟩
      rw [List.flatten_nil, List.append_nil, if_neg (by omega), hdone]
  | cons tmp rest ih =>
      have happend : (done ++ tmp).length = done.length + tmp.length := List.length_append
      have hassoc : done ++ (tmp :: rest).flatten = done ++ tmp ++ rest.flatten := by
        rw [List.flatten_cons, List.append_assoc]
      rw [readBlocks, hassoc]
      by_cases hfull : (capAfter k).val < done.length + tmp.length
      · rw [if_pos hfull]
        obtain ⟨hgrow, hover⟩ := growCap_eq hk (done.length + tmp.length)
        rcases Nat.lt_or_ge fileMax (done.length + tmp.length) with hlong | hshort
        · rw [hover hlong]
          refine ⟨_, rfl, Or.inl ?_⟩
          have hbeyond : fileMax < (done ++ tmp ++ rest.flatten).length := by
            rw [List.length_append, happend]
            omega
          rw [if_pos hbeyond]
        · obtain ⟨j, hkj, hj, hcap, hfits⟩ := hgrow hshort
          rw [hcap]
          dsimp only
          cases hresize : mem.resize buf (capAfter j).val with
          | none => exact ⟨_, rfl, Or.inr ⟨rfl, refuses_of_none hresize⟩⟩
          | some p =>
              have hplen := length_resize hresize
              have hold : p.take buf.length = buf := by
                refine take_resize hresize ?_
                rw [hlen]
                exact capAfter_le hkj
              have hkept : p.take done.length = done := by
                calc p.take done.length = (p.take buf.length).take done.length := by
                      rw [List.take_take, Nat.min_eq_left hfill]
                  _ = done := by rw [hold, hdone]
              have hroom : done.length + tmp.length ≤ p.length := by omega
              obtain ⟨buf', hstore, hlen', htake⟩ := store_block hkept hroom
              dsimp only
              rw [hstore, ok_bind, ← happend]
              refine ih hj (hlen'.trans hplen) ?_ htake
              omega
      · rw [if_neg hfull]
        have hroom : done.length + tmp.length ≤ buf.length := by omega
        obtain ⟨buf', hstore, hlen', htake⟩ := store_block hdone hroom
        rw [hstore, ok_bind, ← happend]
        refine ih hk (hlen'.trans hlen) ?_ htake
        omega

variable (mem) in
/-- **A file is read whole, or not at all**, and nothing is stored outside the buffer. -/
theorem readFileAll_eq (f : File) :
    ∃ r, readFileAll mem (.ok f) = .ok r ∧
      (r = f.contents ∨ r = .error .nomem ∧ mem.Refuses) := by
  unfold readFileAll
  dsimp only
  cases hbuf : mem.resize [] 4096 with
  | none => exact ⟨_, rfl, Or.inr ⟨rfl, refuses_of_none hbuf⟩⟩
  | some buf =>
      have hlen := length_resize hbuf
      obtain ⟨r, hread, hr⟩ := readBlocks_eq mem f.blocks (Nat.zero_le 15)
        (show buf.length = (capAfter 0).val from hlen) (Nat.zero_le _)
        (show buf.take ([] : List UInt8).length = [] from rfl)
      have hfirst : readBlocks mem f.blocks 0 ⟨4096, by decide⟩ buf = .ok r := hread
      dsimp only
      rw [hfirst, ok_bind]
      rw [List.nil_append] at hr
      unfold File.contents
      rcases hr with hr | ⟨hr, hmem⟩
      · rw [hr]
        by_cases hlong : fileMax < f.blocks.flatten.length
        · rw [if_pos hlong, if_pos hlong]
          exact ⟨_, rfl, Or.inl rfl⟩
        · rw [if_neg hlong, if_neg hlong]
          cases f.ferror with
          | true => exact ⟨_, rfl, Or.inl rfl⟩
          | false => exact ⟨_, rfl, Or.inl rfl⟩
      · rw [hr]
        exact ⟨_, rfl, Or.inr ⟨rfl, hmem⟩⟩

end Contents

end Gxfp
