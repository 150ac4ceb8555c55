import Libradio.Lib.State

/-!
# Radio queries and power-up

`src/lib/radio.c` and `src/lib/power.c`: the exchanges that read the Si4463's state, and
the configuration table sent to it when it is powered up.
-/

namespace Libradio

variable {σ : Type}

/-- `libradio_request_device_status`, `src/lib/radio.c:52-64`; `none` is the source's -1. -/
def libradioRequestDeviceStatus (b : Board σ) (d : Dev σ) : Dev σ × Option UInt8 :=
  match b.exchange d.chip [SI4463_REQUEST_DEVICE_STATE] 2 with
  | (w, .ok v) =>
    ({ d with chip := w, radio := { d.radio with currChannel := v[1], currState := v[0] } },
      some v[0])
  | (w, .error _) => ({ d with chip := w }, none)

/-- `libradio_get_fifo_info`, `src/lib/radio.c:234-243`. -/
def libradioGetFifoInfo (b : Board σ) (clrf : UInt8) (d : Dev σ) : Dev σ × UInt8 :=
  match b.exchange d.chip [SI4463_FIFO_INFO, clrf] 2 with
  | (w, .ok v) =>
    ({ d with chip := w, radio := { d.radio with txFifo := v[1], rxFifo := v[0] } }, v[0])
  | (w, .error _) => ({ d with chip := w }, 0)

/-- A query whose reply goes into status fields that nothing modelled reads:
`libradio_get_chip_status`, `libradio_get_part_info`, `libradio_get_func_info` and
`libradio_get_int_status`, `src/lib/radio.c:104-134,204-214,250-265`. -/
def storeOnly (b : Board σ) (cmd : List UInt8) (n : Nat) (d : Dev σ) : Dev σ :=
  { d with chip := (b.exchange d.chip cmd n).1 }

/-- `libradio_get_chip_status`, `src/lib/radio.c:204-214`. -/
def libradioGetChipStatus (b : Board σ) (d : Dev σ) : Dev σ :=
  storeOnly b [SI4463_GET_CHIP_STATUS, 0x7f] 3 d

/-- `libradio_get_part_info`, `src/lib/radio.c:104-116`. -/
def libradioGetPartInfo (b : Board σ) (d : Dev σ) : Dev σ :=
  storeOnly b [SI4463_PART_INFO] 8 d

/-- `libradio_get_func_info`, `src/lib/radio.c:123-134`. -/
def libradioGetFuncInfo (b : Board σ) (d : Dev σ) : Dev σ :=
  storeOnly b [SI4463_FUNC_INFO] 6 d

/-- `libradio_get_int_status`, `src/lib/radio.c:250-265`. -/
def libradioGetIntStatus (b : Board σ) (d : Dev σ) : Dev σ :=
  storeOnly b [SI4463_GET_INT_STATUS, 0, 0, 0] 8 d

/-- `RADIO_CONFIGURATION_DATA_ARRAY`, `src/lib/radio_config.h:594-629`, one entry for each
length byte and without the closing zero. -/
def radioConfiguration : List (List UInt8) :=
   [[0x02, 0x01, 0x00, 0x01, 0x8c, 0xba, 0x80],
    [0x13, 0x60, 0x61, 0x53, 0x54, 0x67, 0x00, 0x00],
    [0x11, 0x00, 0x02, 0x00, 0x52, 0x00],
    [0x11, 0x00, 0x01, 0x03, 0x60],
    [0x11, 0x01, 0x02, 0x00, 0x01, 0x10],
    [0x11, 0x01, 0x01, 0x03, 0x00],
    [0x11, 0x02, 0x04, 0x00, 0x09, 0x03, 0x07, 0x01],
    [0x11, 0x10, 0x09, 0x00, 0x08, 0x14, 0x00, 0x0f, 0x31, 0x00, 0x00, 0x00, 0x00],
    [0x11, 0x11, 0x05, 0x00, 0x01, 0xb4, 0x2b, 0x00, 0x00],
    [0x11, 0x12, 0x07, 0x00, 0x84, 0x01, 0x08, 0xff, 0xff, 0x00, 0x02],
    [0x11, 0x12, 0x0c, 0x08, 0x00, 0x00, 0x00, 0x30, 0x30, 0x00,
      0x20, 0x04, 0xaa, 0x00, 0x00, 0x00],
    [0x11, 0x12, 0x0c, 0x14, 0x00, 0x00, 0x00, 0x00, 0x00, 0x00,
      0x00, 0x00, 0x00, 0x00, 0x00, 0x00],
    [0x11, 0x12, 0x0c, 0x20, 0x00, 0x00, 0x00, 0x00, 0x00, 0x00,
      0x00, 0x00, 0x00, 0x00, 0x00, 0x00],
    [0x11, 0x12, 0x09, 0x2c, 0x00, 0x00, 0x00, 0x00, 0x00, 0x00, 0x00, 0x00, 0x00],
    [0x11, 0x20, 0x0c, 0x00, 0x02, 0x00, 0x07, 0x07, 0xa1, 0x20,
      0x01, 0x8c, 0xba, 0x80, 0x00, 0x06],
    [0x11, 0x20, 0x01, 0x0c, 0x4d],
    [0x11, 0x20, 0x08, 0x18, 0x01, 0x00, 0x08, 0x03, 0x80, 0x00, 0x20, 0x20],
    [0x11, 0x20, 0x09, 0x22, 0x00, 0x41, 0x07, 0xe0, 0x7e, 0x07, 0xff, 0x02, 0x00],
    [0x11, 0x20, 0x07, 0x2c, 0x00, 0x12, 0x81, 0xf8, 0x01, 0xba, 0xa0],
    [0x11, 0x20, 0x01, 0x35, 0xe2],
    [0x11, 0x20, 0x09, 0x38, 0x11, 0x0e, 0x0e, 0x00, 0x02, 0x33, 0x33, 0x00, 0x28],
    [0x11, 0x20, 0x09, 0x42, 0xa4, 0x03, 0xd6, 0x03, 0x01, 0x89, 0x01, 0x80, 0xff],
    [0x11, 0x20, 0x01, 0x4c, 0x02],
    [0x11, 0x20, 0x01, 0x4e, 0x40],
    [0x11, 0x20, 0x01, 0x51, 0x0a],
    [0x11, 0x21, 0x0c, 0x00, 0xff, 0xba, 0x0f, 0x51, 0xcf, 0xa9,
      0xc9, 0xfc, 0x1b, 0x1e, 0x0f, 0x01],
    [0x11, 0x21, 0x0c, 0x0c, 0xfc, 0xfd, 0x15, 0xff, 0x00, 0x0f,
      0xff, 0xba, 0x0f, 0x51, 0xcf, 0xa9],
    [0x11, 0x21, 0x0c, 0x18, 0xc9, 0xfc, 0x1b, 0x1e, 0x0f, 0x01,
      0xfc, 0xfd, 0x15, 0xff, 0x00, 0x0f],
    [0x11, 0x22, 0x04, 0x00, 0x08, 0x7f, 0x00, 0x3d],
    [0x11, 0x23, 0x07, 0x00, 0x2c, 0x0e, 0x0b, 0x04, 0x0c, 0x73, 0x03],
    [0x11, 0x30, 0x0c, 0x00, 0x00, 0x00, 0x00, 0x00, 0x00, 0x00,
      0x00, 0x00, 0x00, 0x00, 0x00, 0x00],
    [0x11, 0x40, 0x08, 0x00, 0x41, 0x0e, 0x27, 0x62, 0x4e, 0xc5, 0x20, 0xfe]]

/-- The loop of `libradio_power_up`, `src/lib/power.c:75-83`: entries are sent until one
fails. -/
def sendConfiguration (b : Board σ) : List (List UInt8) → Dev σ → Dev σ × Bool
  | [], d => (d, true)
  | entry :: rest, d =>
    match b.exchange d.chip entry 0 with
    | (w, .ok _) => sendConfiguration b rest { d with chip := w }
    | (w, .error _) => ({ d with chip := w }, false)

/-- `libradio_power_up`, `src/lib/power.c:65-94`; `true` is the source's 0, `false` its -1. -/
def libradioPowerUp (b : Board σ) (d : Dev σ) : Dev σ × Bool :=
  if d.radio.radioActive then (d, true)
  else
    let c := sendConfiguration b radioConfiguration d
    if c.2 then
      let d := libradioGetChipStatus b c.1
      let d := libradioGetPartInfo b d
      let d := libradioGetFuncInfo b d
      let d := libradioGetIntStatus b d
      let d := (libradioRequestDeviceStatus b d).1
      let d := (libradioGetFifoInfo b 3 d).1
      ({ d with radio := { d.radio with radioActive := true } }, true)
    else
      ({ c.1 with radio := libradioSetState LIBRADIO_STATE_ERROR c.1.radio }, false)

end Libradio
