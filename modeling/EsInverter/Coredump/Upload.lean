import EsInverter.Fault
import Mathlib

/-!
# The upload of a coredump

Each confirmed transmission, of whatever message, sends the next block of the
image.  What the handlers of the upload return is not looked at.
-/

set_option autoImplicit false

namespace EsInverter.Coredump

/-- `CONFIG_EM_COREDUMP_BLOCK_MAX_SIZE` -/
def blockMaxSize : Nat := 1024

/-- `coredump_api_t`, by which of its pointers are set. -/
structure CoredumpApi where
  valid : Bool
  body : Bool
  end_ : Bool
  deriving DecidableEq, Repr

/-- The variable `coredump`; a `size_t` has 32 bits. -/
structure CoredumpState where
  api : CoredumpApi
  ver : UInt32
  addr : UInt32
  sizeLeft : UInt32
  ready : Bool
  deriving DecidableEq, Repr

/-- The calls of the handlers in `api`. -/
inductive ApiCall
  | valid (ver : UInt32)
  | body (ver : UInt32) (blockLen : UInt16) (blockData : List UInt8) (returned : Int32)
  | end_ (ver : UInt32)
  deriving DecidableEq, Repr

/-- A confirmation, and what `api.body` returns if it is called there. -/
structure Sent where
  success : Bool
  bodyReturned : Int32
  deriving DecidableEq, Repr

/-- The bytes of the flash from an address on. -/
def imageAt (flash : UInt32 → UInt8) (addr : UInt32) (size : Nat) : List UInt8 :=
  (List.range size).map fun index => flash (addr + UInt32.ofNat index)

/-- `coredump_on_data_sent_callback`, with the calls it makes.  The flash can be read. -/
def coredumpOnDataSentCallback (flash : UInt32 → UInt8) (sent : Sent) (coredump : CoredumpState) :
    EspErr × CoredumpState × List ApiCall :=
  if ¬ coredump.ready then (.invalidState, coredump, [])
  else if ¬ sent.success ∨ coredump.sizeLeft ≤ 0 then
    (.invalidSize, { coredump with api := ⟨false, false, false⟩, ready := false }, [])
  else
    let blockLen : UInt16 := (min coredump.sizeLeft (UInt32.ofNat blockMaxSize)).toUInt16
    -- The remaining size is compared as a signed number.
    let lastBlock : Bool := coredump.sizeLeft.toInt32.toInt - (blockLen.toNat : Int) ≤ 0
    let blockData := imageAt flash coredump.addr blockLen.toNat
    let bodies :=
      if coredump.api.body then [.body coredump.ver blockLen blockData sent.bodyReturned] else []
    let ends := if lastBlock && coredump.api.end_ then [.end_ coredump.ver] else []
    (.ok,
      { coredump with
        addr := coredump.addr + blockLen.toUInt32,
        sizeLeft := coredump.sizeLeft - blockLen.toUInt32 },
      bodies ++ ends)

/-- What `esp_core_dump_image_check` returns. -/
inductive ImageCheck
  | ok
  | notFound
  | invalidSize
  | invalidCrc
  | other
  deriving DecidableEq, Repr

/-- `is_coredump_present`; the erasure of a broken image succeeds or stops the device. -/
def isCoredumpPresent (check : ImageCheck) (erases : Bool) : Except Fault Bool :=
  match check with
  | .notFound => .ok false
  | .invalidSize | .invalidCrc => if erases then .ok false else .error .errorCheck
  | .other => .error .errorCheck
  | .ok => .ok true

/-- `coredump_start` with the address and the size of the image, if it can be found. -/
def coredumpStart (check : ImageCheck) (erases : Bool) (image : Option (UInt32 × UInt32))
    (random : UInt32) (cfg : CoredumpApi) (coredump : CoredumpState) :
    Except Fault (EspErr × CoredumpState × List ApiCall) := do
  let present ← isCoredumpPresent check erases
  if ¬ present then return (.notFound, coredump, [])
  match image with
  | none => .error .errorCheck
  | some (addr, sizeLeft) =>
      return (.ok, { api := cfg, ver := random, addr, sizeLeft, ready := true },
        if cfg.valid then [.valid random] else [])

/-- The calls made for a sequence of confirmations. -/
def callsFor (flash : UInt32 → UInt8) : CoredumpState → List Sent → List ApiCall
  | _, [] => []
  | coredump, sent :: rest =>
      let (_, next, calls) := coredumpOnDataSentCallback flash sent coredump
      calls ++ callsFor flash next rest

/-- The configuration of the dispatcher, which sets all three handlers. -/
def protocolApi : CoredumpApi := ⟨true, true, true⟩

/-! ### One confirmation -/

/-- An upload of which some bytes are left. -/
def uploading (ver addr : UInt32) (left : Nat) : CoredumpState :=
  { api := protocolApi, ver, addr, sizeLeft := UInt32.ofNat left, ready := true }

/-- The length of the next block. -/
def nextLen (left : Nat) : Nat := min left blockMaxSize

theorem nextLen_le (left : Nat) : nextLen left ≤ left := Nat.min_le_left left blockMaxSize

theorem nextLen_le_max (left : Nat) : nextLen left ≤ blockMaxSize :=
  Nat.min_le_right left blockMaxSize

variable {flash : UInt32 → UInt8} {ver addr : UInt32} {left : Nat}

theorem blockLen_eq (small : left < 2 ^ 32) :
    (min (UInt32.ofNat left) (UInt32.ofNat blockMaxSize)).toUInt16 =
      UInt16.ofNat (nextLen left) := by
  apply UInt16.toNat.inj
  rw [UInt32.toNat_toUInt16, UInt32.toNat_min, UInt32.toNat_ofNat', UInt32.toNat_ofNat',
    Nat.mod_eq_of_lt small, UInt16.toNat_ofNat']
  rfl

theorem toNat_nextLen (left : Nat) : (UInt16.ofNat (nextLen left)).toNat = nextLen left := by
  have most := nextLen_le_max left
  rw [blockMaxSize] at most
  rw [UInt16.toNat_ofNat']
  exact Nat.mod_eq_of_lt (by omega)

theorem toUInt32_nextLen (left : Nat) :
    (UInt16.ofNat (nextLen left)).toUInt32 = UInt32.ofNat (nextLen left) := by
  apply UInt32.toNat.inj
  have most := nextLen_le_max left
  rw [blockMaxSize] at most
  rw [UInt16.toNat_toUInt32, toNat_nextLen, UInt32.toNat_ofNat', Nat.mod_eq_of_lt (by omega)]

theorem toInt_sizeLeft (small : left < 2 ^ 32) :
    (UInt32.ofNat left).toInt32.toInt = if left < 2 ^ 31 then (left : Int) else left - 2 ^ 32 := by
  have value : (UInt32.ofNat left).toInt32.toInt = (UInt32.ofNat left).toBitVec.toInt := rfl
  rw [value, BitVec.toInt_eq_toNat_cond, UInt32.toNat_toBitVec, UInt32.toNat_ofNat',
    Nat.mod_eq_of_lt small]
  split <;> split <;> first | rfl | omega

/-- A block is the last one when it takes all bytes, or when more are left than a signed number
holds. -/
theorem lastBlock_iff (small : left < 2 ^ 32) :
    (UInt32.ofNat left).toInt32.toInt - (nextLen left : Int) ≤ 0 ↔
      left ≤ blockMaxSize ∨ 2 ^ 31 ≤ left := by
  rw [toInt_sizeLeft small, nextLen, blockMaxSize]
  split <;> omega

/-- A failed transmission ends the upload, and so does one behind the last block. -/
theorem callback_stops (sent : Sent) (stops : sent.success = false ∨ left = 0) :
    coredumpOnDataSentCallback flash sent (uploading ver addr left) =
      (.invalidSize,
        { uploading ver addr left with api := ⟨false, false, false⟩, ready := false }, []) := by
  have either : ¬ sent.success = true ∨ (uploading ver addr left).sizeLeft ≤ 0 := by
    rcases stops with failed | rfl
    · exact .inl (by simp [failed])
    · exact .inr (Nat.le_refl _)
  rw [coredumpOnDataSentCallback, if_neg (by simp [uploading]), if_pos either]

theorem callback_sends {sent : Sent} (success : sent.success = true) (some_ : 0 < left)
    (small : left < 2 ^ 32) :
    coredumpOnDataSentCallback flash sent (uploading ver addr left) =
      (.ok, uploading ver (addr + UInt32.ofNat (nextLen left)) (left - nextLen left),
        .body ver (UInt16.ofNat (nextLen left)) (imageAt flash addr (nextLen left))
            sent.bodyReturned ::
          if left ≤ blockMaxSize ∨ 2 ^ 31 ≤ left then [.end_ ver] else []) := by
  have goesOn : ¬ (¬ sent.success = true ∨ (uploading ver addr left).sizeLeft ≤ 0) := by
    have value : (UInt32.ofNat left).toNat = left := by
      rw [UInt32.toNat_ofNat', Nat.mod_eq_of_lt small]
    rintro (failed | empty)
    · exact failed success
    · have none_ : (UInt32.ofNat left).toNat ≤ 0 := empty
      omega
  rw [coredumpOnDataSentCallback, if_neg (by simp [uploading]), if_neg goesOn]
  simp only [uploading, protocolApi, blockLen_eq small, toNat_nextLen, toUInt32_nextLen,
    lastBlock_iff small, ← UInt32.ofNat_sub (nextLen_le left), Bool.and_true, decide_eq_true_eq,
    if_true, List.singleton_append]

/-! ### A sequence of confirmations -/

theorem callsFor_stopped {coredump : CoredumpState} (stopped : coredump.ready = false)
    (sents : List Sent) : callsFor flash coredump sents = [] := by
  induction sents with
  | nil => rfl
  | cons sent rest ih =>
      have waits : coredumpOnDataSentCallback flash sent coredump =
          (.invalidState, coredump, []) := by
        rw [coredumpOnDataSentCallback, if_pos (by simp [stopped])]
      rw [callsFor, waits]
      exact ih

/-- The calls of `api.body` for the confirmations up to the last block. -/
def bodiesFor (flash : UInt32 → UInt8) (ver : UInt32) :
    UInt32 → Nat → List Sent → List ApiCall
  | _, _, [] => []
  | addr, left, sent :: rest =>
      if sent.success = false ∨ left = 0 then []
      else
        .body ver (UInt16.ofNat (nextLen left)) (imageAt flash addr (nextLen left))
            sent.bodyReturned ::
          bodiesFor flash ver (addr + UInt32.ofNat (nextLen left)) (left - nextLen left) rest

/-- The number of blocks of an image. -/
def blockCount (size : Nat) : Nat := (size + (blockMaxSize - 1)) / blockMaxSize

/-- The confirmations reach the last block without a failure. -/
def Completes (size : Nat) (sents : List Sent) : Prop :=
  blockCount size ≤ sents.length ∧ ∀ sent ∈ sents.take (blockCount size), sent.success = true

instance (size : Nat) (sents : List Sent) : Decidable (Completes size sents) :=
  inferInstanceAs (Decidable (_ ∧ _))

theorem blockCount_succ (some_ : 0 < left) :
    blockCount left = blockCount (left - nextLen left) + 1 := by
  rw [blockCount, blockCount, nextLen, blockMaxSize]
  omega

theorem not_completes_nil (some_ : 0 < left) : ¬ Completes left [] := by
  rintro ⟨enough, _⟩
  rw [blockCount_succ some_] at enough
  cases enough

theorem completes_cons (some_ : 0 < left) (sent : Sent) (rest : List Sent) :
    Completes left (sent :: rest) ↔
      sent.success = true ∧ Completes (left - nextLen left) rest := by
  rw [Completes, Completes, blockCount_succ some_, List.take_succ_cons, List.forall_mem_cons,
    List.length_cons, Nat.add_le_add_iff_right]
  exact and_left_comm

theorem completes_zero (sents : List Sent) : Completes 0 sents :=
  ⟨Nat.zero_le _, List.forall_mem_nil _⟩

/-- Below the range of a signed number, the end follows the last block and nothing else. -/
theorem callsFor_uploading (small : left < 2 ^ 31) (sents : List Sent) :
    callsFor flash (uploading ver addr left) sents =
      bodiesFor flash ver addr left sents ++
        if 0 < left ∧ Completes left sents then [.end_ ver] else [] := by
  induction sents generalizing addr left with
  | nil =>
      rw [if_neg fun ⟨some_, completes⟩ => not_completes_nil some_ completes]
      rfl
  | cons sent rest ih =>
      rw [callsFor, bodiesFor]
      by_cases stops : sent.success = false ∨ left = 0
      · have unfinished : ¬ (0 < left ∧ Completes left (sent :: rest)) := by
          rintro ⟨some_, completes⟩
          have success := ((completes_cons some_ sent rest).mp completes).1
          rcases stops with failed | zero
          · rw [failed] at success
            cases success
          · omega
        rw [callback_stops sent stops, if_pos stops, if_neg unfinished]
        exact callsFor_stopped rfl rest
      · have success : sent.success = true := by
          cases value : sent.success with
          | true => rfl
          | false => exact absurd (.inl value) stops
        have some_ : 0 < left := Nat.pos_of_ne_zero fun zero => stops (.inr zero)
        have shorter := nextLen_le left
        rw [callback_sends success some_ (by omega), if_neg stops]
        dsimp only
        rw [ih (by omega), List.cons_append, List.cons_append]
        congr 1
        have wide : ¬ 2 ^ 31 ≤ left := by omega
        by_cases last : left ≤ blockMaxSize
        · have none_ : left - nextLen left = 0 := by
            rw [nextLen, blockMaxSize] at *
            omega
          have completes : 0 < left ∧ Completes left (sent :: rest) :=
            ⟨some_, (completes_cons some_ sent rest).mpr
              ⟨success, none_ ▸ completes_zero rest⟩⟩
          have nothing : bodiesFor flash ver (addr + UInt32.ofNat (nextLen left)) 0 rest = [] := by
            cases rest with
            | nil => rfl
            | cons other rest => exact if_pos (.inr rfl)
          rw [if_pos (.inl last), if_pos completes, none_, nothing, if_neg (by simp)]
          rfl
        · have more : 0 < left - nextLen left := by
            rw [nextLen, blockMaxSize] at *
            omega
          have same : (0 < left ∧ Completes left (sent :: rest)) ↔
              (0 < left - nextLen left ∧ Completes (left - nextLen left) rest) := by
            rw [completes_cons some_]
            constructor
            · rintro ⟨_, _, completes⟩
              exact ⟨more, completes⟩
            · rintro ⟨_, completes⟩
              exact ⟨some_, success, completes⟩
          rw [if_neg (by rintro (short | long); exacts [last short, wide long]), List.nil_append]
          simp only [same]

/-! ### What the receiver can rely on -/

def ApiCall.isEnd : ApiCall → Bool
  | .end_ _ => true
  | _ => false

/-- A call of `api.body` returned zero. -/
def ApiCall.Accepted : ApiCall → Prop
  | .body _ _ _ returned => returned = 0
  | _ => True

def ApiCall.block? : ApiCall → Option (List UInt8)
  | .body _ _ blockData _ => some blockData
  | _ => none

/-- What was passed to `api.body`. -/
def blocksOf (calls : List ApiCall) : List (List UInt8) := calls.filterMap ApiCall.block?

/-- An upload that is terminated is complete, and it is terminated once. -/
structure UploadLaw (image : List UInt8) (calls : List ApiCall) : Prop where
  once : calls.countP ApiCall.isEnd ≤ 1
  complete : ∀ before ver after, calls = before ++ .end_ ver :: after →
    (∀ call ∈ before, call.Accepted) ∧ (blocksOf before).flatten = image ∧
      ∀ block ∈ blocksOf before, block.length ≤ blockMaxSize

theorem uploadLaw_of_no_end {image : List UInt8} {calls : List ApiCall}
    (none_ : ∀ call ∈ calls, call.isEnd = false) : UploadLaw image calls := by
  refine ⟨?_, ?_⟩
  · rw [List.countP_eq_zero.mpr fun call inside => by simp [none_ call inside]]
    exact Nat.zero_le 1
  · rintro before ver after rfl
    exact (Bool.false_ne_true (none_ (.end_ ver) (by simp)).symm).elim

theorem uploadLaw_append_end {image : List UInt8} {before : List ApiCall} {ver : UInt32}
    (none_ : ∀ call ∈ before, call.isEnd = false) :
    UploadLaw image (before ++ [.end_ ver]) ↔
      (∀ call ∈ before, call.Accepted) ∧ (blocksOf before).flatten = image ∧
        ∀ block ∈ blocksOf before, block.length ≤ blockMaxSize := by
  constructor
  · intro law
    exact law.complete before ver [] rfl
  · intro complete
    refine ⟨?_, ?_⟩
    · rw [List.countP_append,
        List.countP_eq_zero.mpr fun call inside => by simp [none_ call inside]]
      exact Nat.le_refl 1
    · intro earlier other after same
      have last : earlier = before := by
        rcases List.eq_nil_or_concat after with rfl | ⟨init, final, rfl⟩
        · exact (List.append_inj' same rfl).1.symm
        · have front : before = earlier ++ .end_ other :: init := by
            rw [List.concat_eq_append, ← List.cons_append, ← List.append_assoc] at same
            exact (List.append_inj' same rfl).1
          have inside : ApiCall.end_ other ∈ before := by simp [front]
          exact (Bool.false_ne_true (none_ _ inside).symm).elim
      rw [last]
      exact complete

theorem imageAt_add (flash : UInt32 → UInt8) (addr : UInt32) (first second : Nat) :
    imageAt flash addr (first + second) =
      imageAt flash addr first ++ imageAt flash (addr + UInt32.ofNat first) second := by
  rw [imageAt, List.range_add, List.map_append, List.map_map]
  congr 1
  apply List.map_congr_left
  intro index _
  rw [Function.comp_apply, UInt32.ofNat_add, UInt32.add_assoc]

theorem length_imageAt (flash : UInt32 → UInt8) (addr : UInt32) (size : Nat) :
    (imageAt flash addr size).length = size := by
  rw [imageAt, List.length_map, List.length_range]

theorem isEnd_bodiesFor (sents : List Sent) :
    ∀ call ∈ bodiesFor flash ver addr left sents, call.isEnd = false := by
  induction sents generalizing addr left with
  | nil => exact List.forall_mem_nil _
  | cons sent rest ih =>
      rw [bodiesFor]
      split
      · exact List.forall_mem_nil _
      · exact List.forall_mem_cons.mpr ⟨rfl, ih⟩

theorem blocks_bounded (sents : List Sent) :
    ∀ block ∈ blocksOf (bodiesFor flash ver addr left sents), block.length ≤ blockMaxSize := by
  induction sents generalizing addr left with
  | nil => exact List.forall_mem_nil _
  | cons sent rest ih =>
      rw [bodiesFor]
      split
      · exact List.forall_mem_nil _
      · refine List.forall_mem_cons.mpr ⟨?_, ih⟩
        rw [length_imageAt]
        exact nextLen_le_max left

/-- Up to the last block the image is sent in order. -/
theorem blocks_complete {sents : List Sent} (completes : Completes left sents) :
    (blocksOf (bodiesFor flash ver addr left sents)).flatten = imageAt flash addr left := by
  induction sents generalizing addr left with
  | nil =>
      rcases Nat.eq_zero_or_pos left with rfl | some_
      · rfl
      · exact absurd completes (not_completes_nil some_)
  | cons sent rest ih =>
      rw [bodiesFor]
      rcases Nat.eq_zero_or_pos left with rfl | some_
      · rw [if_pos (.inr rfl)]
        rfl
      · obtain ⟨success, later⟩ := (completes_cons some_ sent rest).mp completes
        rw [if_neg (by simp [success, some_.ne'])]
        have parts := imageAt_add flash addr (nextLen left) (left - nextLen left)
        rw [Nat.add_sub_cancel' (nextLen_le left), ← ih later] at parts
        exact parts.symm

theorem accepted_iff {sents : List Sent} (completes : Completes left sents) :
    (∀ call ∈ bodiesFor flash ver addr left sents, call.Accepted) ↔
      ∀ sent ∈ sents.take (blockCount left), sent.bodyReturned = 0 := by
  induction sents generalizing addr left with
  | nil =>
      rw [List.take_nil]
      exact iff_of_true (List.forall_mem_nil _) (List.forall_mem_nil _)
  | cons sent rest ih =>
      rw [bodiesFor]
      rcases Nat.eq_zero_or_pos left with rfl | some_
      · rw [if_pos (.inr rfl)]
        exact iff_of_true (List.forall_mem_nil _) (List.forall_mem_nil _)
      · obtain ⟨success, later⟩ := (completes_cons some_ sent rest).mp completes
        rw [if_neg (by simp [success, some_.ne']), blockCount_succ some_, List.take_succ_cons,
          List.forall_mem_cons, List.forall_mem_cons, ih later]
        rfl

/-- Every block before the end was accepted; an image that a signed size cannot hold is ended
behind its first block. -/
def Sound (size : UInt32) (sents : List Sent) : Prop :=
  if size.toNat < 2 ^ 31 then
    Completes size.toNat sents →
      ∀ sent ∈ sents.take (blockCount size.toNat), sent.bodyReturned = 0
  else ∀ sent ∈ sents.head?, sent.success = false

theorem uploadLaw_small (some_ : 0 < left) (small : left < 2 ^ 31) (sents : List Sent) :
    UploadLaw (imageAt flash addr left) (callsFor flash (uploading ver addr left) sents) ↔
      (Completes left sents →
        ∀ sent ∈ sents.take (blockCount left), sent.bodyReturned = 0) := by
  rw [callsFor_uploading small]
  by_cases completes : Completes left sents
  · rw [if_pos ⟨some_, completes⟩, uploadLaw_append_end (isEnd_bodiesFor sents),
      accepted_iff completes]
    constructor
    · intro law _
      exact law.1
    · intro accepted
      exact ⟨accepted completes, blocks_complete completes, blocks_bounded sents⟩
  · rw [if_neg fun both => completes both.2, List.append_nil]
    exact iff_of_true (uploadLaw_of_no_end (isEnd_bodiesFor sents)) fun both => absurd both completes

theorem uploadLaw_wide (wide : 2 ^ 31 ≤ left) (fits : left < 2 ^ 32) (sents : List Sent) :
    UploadLaw (imageAt flash addr left) (callsFor flash (uploading ver addr left) sents) ↔
      ∀ sent ∈ sents.head?, sent.success = false := by
  cases sents with
  | nil => exact iff_of_true (uploadLaw_of_no_end (List.forall_mem_nil _)) (by simp)
  | cons sent rest =>
      rw [callsFor, List.head?_cons]
      cases success : sent.success with
      | false =>
          rw [callback_stops sent (.inl success)]
          dsimp only
          rw [callsFor_stopped rfl]
          refine iff_of_true (uploadLaw_of_no_end (List.forall_mem_nil _)) ?_
          rintro _ ⟨⟩
          exact success
      | true =>
          rw [callback_sends success (by omega) fits, if_pos (.inr wide)]
          refine iff_of_false ?_ fun failed => absurd (failed sent rfl) (by simp [success])
          intro law
          obtain ⟨_, whole, _⟩ := law.complete [_] ver _ rfl
          have lengths := congrArg List.length whole
          have first : (blocksOf [ApiCall.body ver (UInt16.ofNat (nextLen left))
              (imageAt flash addr (nextLen left)) sent.bodyReturned]).flatten =
              imageAt flash addr (nextLen left) := by
            simp [blocksOf, ApiCall.block?]
          rw [first, length_imageAt, length_imageAt, nextLen, blockMaxSize] at lengths
          omega

theorem uploadLaw_valid_cons {image : List UInt8} {calls : List ApiCall} :
    UploadLaw image (.valid ver :: calls) ↔ UploadLaw image calls := by
  have accepts (before : List ApiCall) :
      (∀ call ∈ ApiCall.valid ver :: before, call.Accepted) ↔ ∀ call ∈ before, call.Accepted := by
    rw [List.forall_mem_cons]
    exact and_iff_right trivial
  constructor
  · intro law
    refine ⟨law.once, fun before other after same => ?_⟩
    obtain ⟨accepted, rest⟩ := law.complete (.valid ver :: before) other after (by rw [same]; rfl)
    exact ⟨(accepts before).mp accepted, rest⟩
  · intro law
    refine ⟨law.once, fun before other after same => ?_⟩
    cases before with
    | nil => cases same
    | cons first before =>
        obtain ⟨rfl, tail⟩ := List.cons.inj same
        obtain ⟨accepted, rest⟩ := law.complete before other after tail
        exact ⟨(accepts before).mpr accepted, rest⟩

/-- Whatever is confirmed after a start, the upload keeps its law exactly when it is `Sound`. -/
theorem uploadLaw_iff_sound (flash : UInt32 → UInt8) (addr random : UInt32) {size : UInt32}
    (some_ : 0 < size.toNat) (erases : Bool) (before : CoredumpState) (sents : List Sent) :
    ∃ started calls,
      coredumpStart .ok erases (some (addr, size)) random protocolApi before =
        .ok (.ok, started, calls) ∧
      (UploadLaw (imageAt flash addr size.toNat) (calls ++ callsFor flash started sents) ↔
        Sound size sents) := by
  have value : UInt32.ofNat size.toNat = size := UInt32.ofNat_toNat
  refine ⟨uploading random addr size.toNat, [.valid random], ?_, ?_⟩
  · rw [uploading, value]
    rfl
  · rw [List.singleton_append, uploadLaw_valid_cons, Sound]
    split
    case isTrue small => exact uploadLaw_small some_ small sents
    case isFalse wide => exact uploadLaw_wide (by omega) size.toNat_lt sents

/-- Two whole blocks and a part of one are confirmed, and the end. -/
theorem uploadLaw_iff_sound_blocks :
    ∃ started calls,
      coredumpStart .ok true (some (4096, 2500)) 7 protocolApi
          ⟨⟨false, false, false⟩, 0, 0, 0, false⟩ = .ok (.ok, started, calls) ∧
      UploadLaw (imageAt UInt32.toUInt8 4096 2500)
        (calls ++ callsFor UInt32.toUInt8 started (List.replicate 4 ⟨true, 0⟩)) := by
  have some_ : 0 < (2500 : UInt32).toNat := by decide
  obtain ⟨started, calls, ran, law⟩ := uploadLaw_iff_sound UInt32.toUInt8 4096 7 some_ true
    ⟨⟨false, false, false⟩, 0, 0, 0, false⟩ (List.replicate 4 ⟨true, 0⟩)
  have sound : Sound 2500 (List.replicate 4 ⟨true, 0⟩) := by
    rw [Sound, if_pos (by decide)]
    intro _
    decide
  exact ⟨started, calls, ran, law.mpr sound⟩

/-- A block that was not accepted is followed by the end. -/
theorem rejected_block_ended :
    ¬ UploadLaw (imageAt (fun _ => 5) 0 1)
      (callsFor (fun _ => 5) ⟨protocolApi, 7, 0, 1, true⟩ [⟨true, -1⟩]) := by
  intro law
  have accepted := (law.complete [.body 7 1 [5] (-1)] 7 [] (by decide +kernel)).1
  have zero : (-1 : Int32) = 0 := accepted (.body 7 1 [5] (-1)) (List.mem_singleton.mpr rfl)
  exact absurd zero (by decide)

end EsInverter.Coredump
