import Mathlib.Data.List.TakeWhile
import Libradio.Base.Storage
import Libradio.Client.SpiBoard

/-!
# The configuration table, byte by byte

`libradio_power_up` walks a table of bytes in program memory: each entry stands behind its length,
is copied to `pkt_data` and sent from there, and a length of 0 ends the walk
(`src/lib/power.c:75-83`). Nothing in the walk looks at the end of the table or of the buffer.
-/

namespace Libradio
open Libradio.Base

variable {τ : Type}

/-! ### The walk -/

/-- The loop that copies an entry, `src/lib/power.c:76-77`, from index `i` on with `n` bytes still
to come. It is `none` where it reads behind the table or writes behind `pkt_data`. -/
def copyEntry (pgm : List UInt8) : (n i addr : Nat) → Bus τ → Option (Bus τ)
  | 0, _, _, u => some u
  | n + 1, i, addr, u =>
    match pgm[addr]? with
    | none => none
    | some k =>
      if i < MAX_SPI_BLOCK then copyEntry pgm n (i + 1) (addr + 1) (u.store i k) else none

/-- The loop over the table, `src/lib/power.c:75-83`. -/
def sendTable (spi : SpiByte τ) (pgm : List UInt8) (addr : Nat) (u : Bus τ) :
    Option (Bus τ × Bool) :=
  match _h : pgm[addr]? with
  | none => none
  | some len =>
    if len = 0 then some (u, true)
    else
      match copyEntry pgm len.toNat 0 (addr + 1) u with
      | none => none
      | some u =>
        match pktSend spi len.toNat 0 u with
        | (u, .ok _) => sendTable spi pgm (addr + 1 + len.toNat) u
        | (u, .error _) => some (u, false)
  termination_by pgm.length - addr
  decreasing_by
    have hlt := (List.getElem?_eq_some_iff.mp _h).1
    omega

/-- What follows the table, `src/lib/power.c:84-93`. -/
def afterTable {σ : Type} (b : Board σ) (d : Dev σ) : Dev σ :=
  let d := libradioGetChipStatus b d
  let d := libradioGetPartInfo b d
  let d := libradioGetFuncInfo b d
  let d := libradioGetIntStatus b d
  let d := (libradioRequestDeviceStatus b d).1
  let d := (libradioGetFifoInfo b 3 d).1
  { d with radio := { d.radio with radioActive := true } }

/-- `libradio_power_up`, `src/lib/power.c:65-94`, with the table it walks. -/
def powerUpFrom (spi : SpiByte τ) (analog : τ → UInt8 → τ × UInt16) (pgm : List UInt8)
    (d : Dev (Bus τ)) : Option (Dev (Bus τ) × Bool) :=
  if d.radio.radioActive then some (d, true)
  else
    match sendTable spi pgm 0 d.chip with
    | none => none
    | some (u, false) =>
      some ({ d with chip := u, radio := libradioSetState LIBRADIO_STATE_ERROR d.radio }, false)
    | some (u, true) => some (afterTable (.ofSpi spi analog) { d with chip := u }, true)

/-- `radio_config`, `src/lib/power.c:52`: the bytes of `RADIO_CONFIGURATION_DATA_ARRAY`,
`src/lib/radio_config.h:594-629`. -/
def radioConfig : List UInt8 :=
   [0x07, 0x02, 0x01, 0x00, 0x01, 0x8c, 0xba, 0x80,
    0x08, 0x13, 0x60, 0x61, 0x53, 0x54, 0x67, 0x00, 0x00,
    0x06, 0x11, 0x00, 0x02, 0x00, 0x52, 0x00,
    0x05, 0x11, 0x00, 0x01, 0x03, 0x60,
    0x06, 0x11, 0x01, 0x02, 0x00, 0x01, 0x10,
    0x05, 0x11, 0x01, 0x01, 0x03, 0x00,
    0x08, 0x11, 0x02, 0x04, 0x00, 0x09, 0x03, 0x07, 0x01,
    0x0d, 0x11, 0x10, 0x09, 0x00, 0x08, 0x14, 0x00, 0x0f, 0x31, 0x00, 0x00, 0x00, 0x00,
    0x09, 0x11, 0x11, 0x05, 0x00, 0x01, 0xb4, 0x2b, 0x00, 0x00,
    0x0b, 0x11, 0x12, 0x07, 0x00, 0x84, 0x01, 0x08, 0xff, 0xff, 0x00, 0x02,
    0x10, 0x11, 0x12, 0x0c, 0x08, 0x00, 0x00, 0x00, 0x30, 0x30, 0x00, 0x20, 0x04, 0xaa, 0x00,
      0x00, 0x00,
    0x10, 0x11, 0x12, 0x0c, 0x14, 0x00, 0x00, 0x00, 0x00, 0x00, 0x00, 0x00, 0x00, 0x00, 0x00,
      0x00, 0x00,
    0x10, 0x11, 0x12, 0x0c, 0x20, 0x00, 0x00, 0x00, 0x00, 0x00, 0x00, 0x00, 0x00, 0x00, 0x00,
      0x00, 0x00,
    0x0d, 0x11, 0x12, 0x09, 0x2c, 0x00, 0x00, 0x00, 0x00, 0x00, 0x00, 0x00, 0x00, 0x00,
    0x10, 0x11, 0x20, 0x0c, 0x00, 0x02, 0x00, 0x07, 0x07, 0xa1, 0x20, 0x01, 0x8c, 0xba, 0x80,
      0x00, 0x06,
    0x05, 0x11, 0x20, 0x01, 0x0c, 0x4d,
    0x0c, 0x11, 0x20, 0x08, 0x18, 0x01, 0x00, 0x08, 0x03, 0x80, 0x00, 0x20, 0x20,
    0x0d, 0x11, 0x20, 0x09, 0x22, 0x00, 0x41, 0x07, 0xe0, 0x7e, 0x07, 0xff, 0x02, 0x00,
    0x0b, 0x11, 0x20, 0x07, 0x2c, 0x00, 0x12, 0x81, 0xf8, 0x01, 0xba, 0xa0,
    0x05, 0x11, 0x20, 0x01, 0x35, 0xe2,
    0x0d, 0x11, 0x20, 0x09, 0x38, 0x11, 0x0e, 0x0e, 0x00, 0x02, 0x33, 0x33, 0x00, 0x28,
    0x0d, 0x11, 0x20, 0x09, 0x42, 0xa4, 0x03, 0xd6, 0x03, 0x01, 0x89, 0x01, 0x80, 0xff,
    0x05, 0x11, 0x20, 0x01, 0x4c, 0x02,
    0x05, 0x11, 0x20, 0x01, 0x4e, 0x40,
    0x05, 0x11, 0x20, 0x01, 0x51, 0x0a,
    0x10, 0x11, 0x21, 0x0c, 0x00, 0xff, 0xba, 0x0f, 0x51, 0xcf, 0xa9, 0xc9, 0xfc, 0x1b, 0x1e,
      0x0f, 0x01,
    0x10, 0x11, 0x21, 0x0c, 0x0c, 0xfc, 0xfd, 0x15, 0xff, 0x00, 0x0f, 0xff, 0xba, 0x0f, 0x51,
      0xcf, 0xa9,
    0x10, 0x11, 0x21, 0x0c, 0x18, 0xc9, 0xfc, 0x1b, 0x1e, 0x0f, 0x01, 0xfc, 0xfd, 0x15, 0xff,
      0x00, 0x0f,
    0x08, 0x11, 0x22, 0x04, 0x00, 0x08, 0x7f, 0x00, 0x3d,
    0x0b, 0x11, 0x23, 0x07, 0x00, 0x2c, 0x0e, 0x0b, 0x04, 0x0c, 0x73, 0x03,
    0x10, 0x11, 0x30, 0x0c, 0x00, 0x00, 0x00, 0x00, 0x00, 0x00, 0x00, 0x00, 0x00, 0x00, 0x00,
      0x00, 0x00,
    0x0c, 0x11, 0x40, 0x08, 0x00, 0x41, 0x0e, 0x27, 0x62, 0x4e, 0xc5, 0x20, 0xfe,
    0x00]

/-! ### One entry -/

namespace Bus

/-- From index `i` on, `pkt_data` is overwritten with the bytes. -/
def loadFrom (i : Nat) (bytes : List UInt8) (u : Bus τ) : Bus τ :=
  { u with pktData := Vector.ofFn fun j ↦
      if j.val < i then u.pktData.get j else bytes.getD (j.val - i) (u.pktData.get j) }

private theorem loadFrom_zero (bytes : List UInt8) (u : Bus τ) :
    u.loadFrom 0 bytes = u.load bytes := rfl

private theorem getElem_loadFrom (i : Nat) (bytes : List UInt8) (u : Bus τ) {j : Nat}
    (hj : j < MAX_SPI_BLOCK) :
    (u.loadFrom i bytes).pktData[j] =
      if j < i then u.pktData[j] else bytes.getD (j - i) u.pktData[j] := by
  show (Vector.ofFn _)[j] = _
  rw [Vector.getElem_ofFn]
  rfl

private theorem loadFrom_nil (i : Nat) (u : Bus τ) : u.loadFrom i [] = u := by
  have hdata : (u.loadFrom i []).pktData = u.pktData := by
    apply Vector.ext
    intro j hj
    rw [getElem_loadFrom, List.getD_nil, ite_self]
  exact congrArg (Bus.mk u.chip u.ss) hdata

private theorem loadFrom_cons (i : Nat) (k : UInt8) (bytes : List UInt8) (u : Bus τ) :
    u.loadFrom i (k :: bytes) = (u.store i k).loadFrom (i + 1) bytes := by
  have hdata : (u.loadFrom i (k :: bytes)).pktData =
      ((u.store i k).loadFrom (i + 1) bytes).pktData := by
    apply Vector.ext
    intro j hj
    rw [getElem_loadFrom, getElem_loadFrom, store]
    dsimp only
    rw [Vector.getElem_setIfInBounds]
    by_cases hlt : j < i
    · rw [if_pos hlt, if_pos (by omega), if_neg (by omega)]
    · rw [if_neg hlt]
      by_cases heq : i = j
      · subst heq
        rw [Nat.sub_self, if_pos (by omega), if_pos rfl]
        rfl
      · have hsub : j - i = (j - (i + 1)) + 1 := by omega
        rw [if_neg (by omega), if_neg heq, hsub, List.getD_cons_succ]
  exact congrArg (Bus.mk u.chip u.ss) hdata

end Bus

/-- An entry that fits is copied to where the command is taken from. -/
theorem copyEntry_of_le {pgm : List UInt8} {entry : List UInt8} {i addr : Nat}
    (h : Stores pgm addr entry) (hfits : i + entry.length ≤ MAX_SPI_BLOCK) (u : Bus τ) :
    copyEntry pgm entry.length i addr u = some (u.loadFrom i entry) := by
  induction entry generalizing i addr u with
  | nil => exact congrArg some (u.loadFrom_nil i).symm
  | cons k entry ih =>
    obtain ⟨hk, hrest⟩ := stores_cons h
    rw [List.length_cons] at hfits ⊢
    have hi : i < MAX_SPI_BLOCK := by omega
    rw [copyEntry, hk]
    dsimp only
    rw [if_pos hi, ih hrest (by omega), Bus.loadFrom_cons]

/-- An entry that does not fit is written over the end of the buffer. -/
theorem copyEntry_of_lt {pgm : List UInt8} {entry : List UInt8} {i addr : Nat}
    (h : Stores pgm addr entry) (hi : i ≤ MAX_SPI_BLOCK)
    (hlong : MAX_SPI_BLOCK < i + entry.length) (u : Bus τ) :
    copyEntry pgm entry.length i addr u = none := by
  induction entry generalizing i addr u with
  | nil =>
    rw [List.length_nil] at hlong
    omega
  | cons k entry ih =>
    obtain ⟨hk, hrest⟩ := stores_cons h
    rw [List.length_cons] at hlong ⊢
    rw [copyEntry, hk]
    dsimp only
    by_cases hlt : i < MAX_SPI_BLOCK
    · rw [if_pos hlt]
      exact ih hrest hlt (by omega) _
    · rw [if_neg hlt]

/-! ### The table -/

section Table

variable (spi : SpiByte τ) (analog : τ → UInt8 → τ × UInt16) {pgm row : List UInt8}
  {rows : List (List UInt8)} {addr : Nat}

private theorem sendTable_nil (h : Stores pgm addr (table [])) (u : Bus τ) :
    sendTable spi pgm addr u = some (u, true) := by
  have hlen := (stores_cons h).1
  rw [sendTable]
  split
  · next hnone =>
    rw [hlen] at hnone
    cases hnone
  · next len hsome =>
    rw [hlen] at hsome
    cases hsome
    exact if_pos rfl

/-- An entry is copied and sent, and the walk goes on behind it if it was. -/
theorem sendTable_cons (h : Stores pgm addr (table (row :: rows))) (hrow : IsRow row) (u : Bus τ) :
    sendTable spi pgm addr u = (copyEntry pgm row.length 0 (addr + 1) u).bind fun u ↦
      match pktSend spi row.length 0 u with
      | (u, .ok _) => sendTable spi pgm (addr + 1 + row.length) u
      | (u, .error _) => some (u, false) := by
  have hlen := (stores_table_cons h).1
  rw [sendTable]
  split
  · next hnone =>
    rw [hlen] at hnone
    cases hnone
  · next len hsome =>
    rw [hlen] at hsome
    cases hsome
    rw [if_neg hrow.length_ne_zero, hrow.toNat_length]
    cases copyEntry pgm row.length 0 (addr + 1) u <;> rfl

/-- The entry fits `pkt_data`. -/
def FitsBlock (row : List UInt8) : Bool := row.length ≤ MAX_SPI_BLOCK

/-- The walk over a table of rows sends them in order until one fails, up to the first that does
not fit `pkt_data`: if it comes to that one, it leaves the buffer. -/
theorem sendTable_table (h : Stores pgm addr (table rows)) (hrows : ∀ row ∈ rows, IsRow row)
    (d : Dev (Bus τ)) :
    sendTable spi pgm addr d.chip =
      match sendConfiguration (.ofSpi spi analog) (rows.takeWhile FitsBlock) d with
      | (d', true) => if rows.all FitsBlock then some (d'.chip, true) else none
      | (d', false) => some (d'.chip, false) := by
  induction rows generalizing addr d with
  | nil => exact sendTable_nil spi h d.chip
  | cons row rows ih =>
    obtain ⟨-, hhold, hrest⟩ := stores_table_cons h
    have hrow : IsRow row := hrows row List.mem_cons_self
    have hrows' (row' : List UInt8) (hmem : row' ∈ rows) : IsRow row' :=
      hrows row' (List.mem_cons_of_mem row hmem)
    rw [sendTable_cons spi h hrow, List.all_cons]
    by_cases hfits : row.length ≤ MAX_SPI_BLOCK
    · have hfits' : FitsBlock row = true := decide_eq_true hfits
      rw [copyEntry_of_le hhold (by omega), Bus.loadFrom_zero, Option.bind_some,
        List.takeWhile_cons_of_pos hfits', hfits', Bool.true_and, sendConfiguration]
      unfold Board.ofSpi
      dsimp only
      cases pktSend spi row.length 0 (d.chip.load row) with
      | mk u answer =>
        cases answer with
        | ok _ => exact ih hrest hrows' { d with chip := u }
        | error _ => rfl
    · have hfits' : FitsBlock row = false := decide_eq_false hfits
      rw [copyEntry_of_lt hhold (Nat.zero_le _) (by omega), Option.bind_none,
        List.takeWhile_cons_of_neg (by simp [hfits']), hfits']
      rfl

end Table

/-! ### What the walk shifts out -/

/-- The exchanges of the entries in order, each with its polls. -/
inductive SendsEach : List (List UInt8) → List Shift → Prop
  | nil : SendsEach [] []
  | cons {row : List UInt8} {rows : List (List UInt8)} {out : List Shift} (polls : Nat)
      (few : polls ≤ MAX_COUNT) (rest : SendsEach rows out) :
      SendsEach (row :: rows) (exchanged row polls 0 ++ out)

/-- What a walk over the entries shifts out if it ends with `ok`: the exchanges of all of them, or
of those in front of one that fails, and the first bytes of this one's. -/
inductive Walked (rows : List (List UInt8)) : (ok : Bool) → List Shift → Prop
  | whole {out : List Shift} (all : SendsEach rows out) : Walked rows true out
  | broken {done later : List (List UInt8)} {row : List UInt8} {out part : List Shift}
      (polls : Nat) (few : polls ≤ MAX_COUNT) (split : rows = done ++ row :: later)
      (front : SendsEach done out) (cut : part <+: exchanged row polls 0) :
      Walked rows false (out ++ part)

/-- One more entry in front. -/
theorem Walked.cons {rows : List (List UInt8)} {ok : Bool} {out : List Shift}
    (h : Walked rows ok out) (row : List UInt8) {polls : Nat} (few : polls ≤ MAX_COUNT) :
    Walked (row :: rows) ok (exchanged row polls 0 ++ out) := by
  cases h with
  | whole all => exact .whole (.cons polls few all)
  | broken polls' few' split front cut =>
    rw [← List.append_assoc]
    exact .broken polls' few' (congrArg (row :: ·) split) (.cons polls few front) cut

/-- The command that is sent from `pkt_data` is the one that was put there. -/
theorem take_load {row : List UInt8} (h : row.length ≤ MAX_SPI_BLOCK) (u : Bus τ) :
    (u.load row).pktData.toList.take row.length = row := by
  apply List.ext_getElem
  · simp only [List.length_take, Vector.length_toList]
    omega
  · intro i hi hi'
    have hlt : i < MAX_SPI_BLOCK := Nat.lt_of_lt_of_le hi' h
    have hget := Bus.getElem_loadFrom 0 row u hlt
    rw [if_neg (Nat.not_lt_zero i), Nat.sub_zero, List.getD_eq_getElem?_getD,
      List.getElem?_eq_getElem hi', Option.getD_some] at hget
    rw [List.getElem_take, Vector.getElem_toList]
    exact hget

/-- Whatever the bus does: the walk over a table of entries that fit `pkt_data` shifts these out,
in order and each by itself, up to the first whose exchange fails. -/
theorem walked_sendTable {spi : SpiByte τ} {log : τ → List Shift} (hspi : spi.Records log)
    {pgm : List UInt8} {rows : List (List UInt8)} {addr : Nat}
    (h : Stores pgm addr (table rows)) (hrows : ∀ row ∈ rows, IsRow row ∧ FitsBlock row = true)
    (u : Bus τ) :
    ∃ v ok out, sendTable spi pgm addr u = some (v, ok) ∧ log v.chip = log u.chip ++ out ∧
      Walked rows ok out := by
  induction rows generalizing addr u with
  | nil => exact ⟨u, true, [], sendTable_nil spi h u, (List.append_nil _).symm, .whole .nil⟩
  | cons row rows ih =>
    obtain ⟨-, hhold, hrest⟩ := stores_table_cons h
    obtain ⟨hrow, hfits⟩ := hrows row List.mem_cons_self
    have hfits : row.length ≤ MAX_SPI_BLOCK := of_decide_eq_true hfits
    obtain ⟨polls, hpolls, out, hlog, hcut, hall, -⟩ :=
      shifts_pktSend hspi row.length 0 (u.load row)
    rw [take_load hfits] at hcut hall
    rw [sendTable_cons spi h hrow, copyEntry_of_le hhold (by omega), Bus.loadFrom_zero,
      Option.bind_some]
    have hload : (u.load row).chip = u.chip := by rw [Bus.load]
    rw [hload] at hlog
    generalize pktSend spi row.length 0 (u.load row) = r at hlog hall ⊢
    obtain ⟨v, answer⟩ := r
    cases answer with
    | error _ =>
      have hbroken : Walked (row :: rows) false ([] ++ out) :=
        .broken polls hpolls (List.nil_append _).symm .nil hcut
      exact ⟨v, false, out, rfl, hlog, hbroken⟩
    | ok _ =>
      obtain ⟨w, ok, more, hsend, hmore, hwalked⟩ :=
        ih hrest (fun row' hmem ↦ hrows row' (List.mem_cons_of_mem row hmem)) v
      have hlog : log v.chip = log u.chip ++ out := hlog
      refine ⟨w, ok, out ++ more, hsend, ?_, ?_⟩
      · rw [hmore, hlog, List.append_assoc]
      · rw [hall rfl]
        exact hwalked.cons row hpolls

/-! ### Powering up -/

section PowerUp

variable (spi : SpiByte τ) (analog : τ → UInt8 → τ × UInt16)

/-- The entries of the table have length bytes of their own and fit `pkt_data`. -/
theorem radioConfiguration_rows :
    ∀ row ∈ radioConfiguration, IsRow row ∧ FitsBlock row = true := by decide

/-- Each of its length bytes is the length of the entry behind it. -/
theorem radioConfig_eq : radioConfig = table radioConfiguration := by decide +kernel

-- So its bytes are stored from the start on.
private theorem stores_radioConfig : Stores radioConfig 0 (table radioConfiguration) := by
  rw [radioConfig_eq]
  exact List.prefix_rfl

/-- The walk over the bytes of the configuration is the walk over its entries. -/
theorem sendTable_radioConfig (d : Dev (Bus τ)) :
    sendTable spi radioConfig 0 d.chip =
      some ((sendConfiguration (.ofSpi spi analog) radioConfiguration d).1.chip,
        (sendConfiguration (.ofSpi spi analog) radioConfiguration d).2) := by
  have hall : radioConfiguration.all FitsBlock = true :=
    List.all_eq_true.mpr fun row hrow ↦ (radioConfiguration_rows row hrow).2
  have htake : radioConfiguration.takeWhile FitsBlock = radioConfiguration :=
    List.takeWhile_eq_self_iff.mpr fun row hrow ↦ (radioConfiguration_rows row hrow).2
  rw [sendTable_table spi analog stores_radioConfig
    fun row hrow ↦ (radioConfiguration_rows row hrow).1, hall, htake]
  cases sendConfiguration (.ofSpi spi analog) radioConfiguration d with
  | mk d' ok => cases ok <;> rfl

/-- Sending the configuration changes the chip only. -/
theorem sendConfiguration_chip {σ : Type} (b : Board σ) (entries : List (List UInt8))
    (d : Dev σ) :
    (sendConfiguration b entries d).1 =
      { d with chip := (sendConfiguration b entries d).1.chip } := by
  induction entries generalizing d with
  | nil => rfl
  | cons entry entries ih =>
    unfold sendConfiguration
    cases b.exchange d.chip entry 0 with
    | mk w answer =>
      cases answer with
      | ok _ => exact ih { d with chip := w }
      | error _ => rfl

/-- Powering up with the walk over the table as a step of its own. -/
theorem libradioPowerUp_eq {σ : Type} (b : Board σ) (d : Dev σ) :
    libradioPowerUp b d =
      if d.radio.radioActive then (d, true)
      else
        match sendConfiguration b radioConfiguration d with
        | (d, true) => (afterTable b d, true)
        | (d, false) =>
          ({ d with radio := libradioSetState LIBRADIO_STATE_ERROR d.radio }, false) := by
  unfold libradioPowerUp
  dsimp only
  cases sendConfiguration b radioConfiguration d with
  | mk d' ok => cases ok <;> rfl

/-- Over every bus and from every state, powering up byte by byte reads no byte behind the table,
writes none behind `pkt_data`, and is what powering up entry by entry is. -/
theorem powerUpFrom_radioConfig (d : Dev (Bus τ)) :
    powerUpFrom spi analog radioConfig d = some (libradioPowerUp (.ofSpi spi analog) d) := by
  rw [powerUpFrom, libradioPowerUp_eq]
  by_cases hactive : d.radio.radioActive = true
  · rw [if_pos hactive, if_pos hactive]
  · have hchip := sendConfiguration_chip (.ofSpi spi analog) radioConfiguration d
    rw [if_neg hactive, if_neg hactive, sendTable_radioConfig spi analog]
    generalize sendConfiguration (.ofSpi spi analog) radioConfiguration d = sent at hchip ⊢
    obtain ⟨d', ok⟩ := sent
    dsimp only at hchip ⊢
    cases ok with
    | true =>
      show some (afterTable _ _, true) = some (afterTable _ d', true)
      rw [← hchip]
    | false =>
      have hradio : d'.radio = d.radio := by rw [hchip]
      show some (_, false) = some (_, false)
      rw [hradio]
      exact congrArg (fun x : Dev (Bus τ) ↦
        some ({ x with radio := libradioSetState LIBRADIO_STATE_ERROR d.radio }, false)) hchip.symm

/-- Over every bus and from every state, powering up byte by byte reads no byte behind the table,
writes none behind `pkt_data`, and is what powering up entry by entry is; and what the walk over
the table shifts out is the entries one by one, each as one exchange with the radio selected, up
to the first that fails. -/
theorem power_up_bytewise (analog : τ × List Shift → UInt8 → (τ × List Shift) × UInt16)
    (d : Dev (Bus (τ × List Shift))) :
    powerUpFrom (recorded spi) analog radioConfig d =
        some (libradioPowerUp (.ofSpi (recorded spi) analog) d) ∧
      ∃ u ok out, sendTable (recorded spi) radioConfig 0 d.chip = some (u, ok) ∧
        u.chip.2 = d.chip.chip.2 ++ out ∧ Walked radioConfiguration ok out :=
  ⟨powerUpFrom_radioConfig (recorded spi) analog d,
    walked_sendTable (records_recorded spi) stores_radioConfig radioConfiguration_rows d.chip⟩

/-- A table of other entries, as the configuration tool may generate one, keeps powering up inside
the table and `pkt_data` if and only if the radio is active already, every entry fits, or one of
the entries in front of the first that does not is not sent. -/
theorem power_up_inside_iff {rows : List (List UInt8)} (hrows : ∀ row ∈ rows, IsRow row)
    (d : Dev (Bus τ)) :
    (powerUpFrom spi analog (table rows) d).isSome ↔
      d.radio.radioActive = true ∨ (∀ row ∈ rows, row.length ≤ MAX_SPI_BLOCK) ∨
        (sendConfiguration (.ofSpi spi analog) (rows.takeWhile FitsBlock) d).2 = false := by
  have hall : rows.all FitsBlock = true ↔ ∀ row ∈ rows, row.length ≤ MAX_SPI_BLOCK := by
    simp [FitsBlock, List.all_eq_true]
  unfold powerUpFrom
  by_cases hactive : d.radio.radioActive = true
  · simp [hactive]
  · have hstores : Stores (table rows) 0 (table rows) := List.prefix_rfl
    rw [if_neg hactive, sendTable_table spi analog hstores hrows, ← hall]
    generalize sendConfiguration (.ofSpi spi analog) (rows.takeWhile FitsBlock) d = sent
    obtain ⟨d', ok⟩ := sent
    cases ok with
    | false => simp
    | true =>
      by_cases hfit : rows.all FitsBlock = true
      · simp [hfit]
      · simp [hfit, hactive]

/-- A radio that takes every byte, and an entry of 21 bytes behind one of two. -/
theorem power_up_inside_iff_long :
    (powerUpFrom (fun _ t _ ↦ (t, some 0xff)) (fun t _ ↦ (t, 0))
        (table [[0x02, 0x01], List.replicate 21 0x11])
        (Client.powerOn ⟨(), true, .replicate 20 0⟩)).isSome = false := by
  rw [Bool.eq_false_iff, ne_eq, power_up_inside_iff _ _ (by decide)]
  decide +kernel

end PowerUp

end Libradio
