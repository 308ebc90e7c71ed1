/-!
# Runs that end outside the language

Assertions are enabled in the committed configuration, so a failing `assert`
stops the device.  An access outside an array is kept apart from it.
-/

namespace EsInverter

/-- The `assert` statements of the modelled functions, by what they check. -/
inductive Assert
  /-- `assert(msg.img_url_len < sizeof(msg.img_url) - 1)` -/
  | imgUrlLen
  /-- `assert(sizeof(msg.network) < sizeof(msg.network_len) - 1)` and the serializer's check. -/
  | networkLen
  /-- `assert(sizeof(msg.password) < sizeof(msg.password_len) - 1)` and the serializer's check. -/
  | passwordLen
  /-- `assert(msg.schedule_len == ARRAY_LENGTH(msg.schedule))` -/
  | scheduleLen
  /-- `assert(msg.percentage_len == ARRAY_LENGTH(msg.percentage))` -/
  | percentageLen
  /-- `assert(len_in <= CONFIG_EM_SLIP_DECODED_DATA_BUF_SIZE)` -/
  | slipLenIn
  /-- `assert(!decrypt_handle)` -/
  | decryptHandle
  /-- `assert(!https_ota_handle)` -/
  | httpsOtaHandle
  /-- `assert(img_size >= 0)` -/
  | imgSize
  /-- `assert(data && out_type)` -/
  | dataOut
  /-- `assert(sizeof(msg_buffer) >= len)` -/
  | msgBuffer
  /-- `assert(url[0] == '/')` -/
  | urlSlash
  /-- `assert(t_on > 0 && t_off > 0 && repeats > 0)` of a blinking scene. -/
  | blinkTimes
  /-- `assert(repeats * (t_on + t_off) < period)` of a periodic scene. -/
  | blinkPeriod
  /-- `assert(scene->color != RGB_LEDS_OFF)` -/
  | blinkColor
  /-- `assert(period > 1)` -/
  | period
  /-- `assert(pimpl->rq[idx].payload == NULL)` -/
  | rqPayload
  /-- `assert(0)` behind a failed `malloc`. -/
  | serialized
  /-- `assert(false)` behind `send_idx >= entries_cnt`. -/
  | sendIdx
  /-- `assert(pimpl->rq[send_idx].payload_len > 0)` -/
  | payloadLen
  /-- `assert(data_len > 0)` and the checks of the lengths in the ring buffer. -/
  | dataLen
  /-- `assert(chr_len <= MAX_CHR_LEN)` -/
  | chrLen
  /-- `assert(cb)` -/
  | schedulerCb
  /-- `assert(idx < CONFIG_EM_SCHEDULER_MAX_ENTRIES)` -/
  | entryIdx
  /-- `assert(scheduler_entry[idx].scheduled)` -/
  | entryScheduled
  /-- `assert(scheduler_entry[idx].msg.cb)` -/
  | entryCb
  /-- `assert(cb != scheduler_entry[i].msg.cb)` -/
  | entryOtherCb
  /-- `assert(started)` -/
  | entryStarted
  /-- The kernel's assertion on the period of a timer. -/
  | timerPeriod
  /-- `assert(entry_size == sizeof(uint8_t))` and the checks of the other integer types. -/
  | entrySize
  /-- `assert(ret == ESP_OK || ret == ESP_ERR_NVS_NOT_FOUND)` behind `nvs_open`. -/
  | nvsOpen
  /-- `assert(cap < 1200)` -/
  | bufferCap
  /-- `assert(block_len <= sizeof(msg.block_data))` -/
  | blockLen
  /-- `assert(ssid_len < sizeof(wifi_cfg.sta.ssid))` -/
  | staSsid
  /-- `assert(password_len < sizeof(wifi_cfg.sta.password))` -/
  | staPassword
  /-- `assert(false)` behind a failed `esp_wifi_connect`. -/
  | wifiConnect
  /-- `assert(max_len <= CONFIG_EM_WIFI_MAX_SCAN_RECORDS)` -/
  | maxLen
  /-- `assert(item_size > 0)` -/
  | itemSize
  /-- `assert(items_cap > 0)` -/
  | itemsCap
  deriving DecidableEq, Repr

inductive Fault
  | assertion (failed : Assert)
  | outOfBounds
  /-- `ESP_ERROR_CHECK` -/
  | errorCheck
  deriving DecidableEq, Repr

theorem bind_ok {α β : Type} {first : Except Fault α} {next : α → Except Fault β} {result : β}
    (run : first >>= next = .ok result) : ∃ value, first = .ok value ∧ next value = .ok result := by
  cases first with
  | error fault => cases run
  | ok value => exact ⟨value, rfl, run⟩

theorem ok_bind {α β : Type} (value : α) (next : α → Except Fault β) :
    (Except.ok value >>= next) = next value := rfl

/-- A run stops at an assertion; otherwise it goes on or ends in another fault. -/
def Stops {α : Type} (run : Except Fault α) : Prop :=
  ∃ failed, run = .error (.assertion failed)

section Stops

variable {α β : Type}

theorem not_stops_ok (value : α) : ¬ Stops (.ok value : Except Fault α) := by
  rintro ⟨failed, same⟩
  cases same

theorem not_stops_of_returns {run : Except Fault α} (returns : ∃ value, run = .ok value) :
    ¬ Stops run := by
  obtain ⟨value, rfl⟩ := returns
  exact not_stops_ok value

theorem not_stops_outOfBounds : ¬ Stops (.error .outOfBounds : Except Fault α) := by
  rintro ⟨failed, same⟩
  cases same

theorem not_stops_ite {condition : Prop} [Decidable condition] {first second : Except Fault α}
    (left : ¬ Stops first) (right : ¬ Stops second) :
    ¬ Stops (if condition then first else second) := by
  split
  · exact left
  · exact right

theorem not_stops_bind {first : Except Fault α} {next : α → Except Fault β}
    (head : ¬ Stops first) (tail : ∀ value, first = .ok value → ¬ Stops (next value)) :
    ¬ Stops (first >>= next) := by
  rintro ⟨failed, ran⟩
  cases first with
  | error fault =>
      cases ran
      exact head ⟨failed, rfl⟩
  | ok value => exact tail value rfl ⟨failed, ran⟩

theorem stops_bind {first : Except Fault α} (head : Stops first) (next : α → Except Fault β) :
    Stops (first >>= next) := by
  obtain ⟨failed, rfl⟩ := head
  exact ⟨failed, rfl⟩

end Stops

/-- The `esp_err_t` codes that the modelled functions return. -/
inductive EspErr
  | ok
  | fail
  | noMem
  | invalidArg
  | invalidState
  | invalidSize
  | notFound
  | notSupported
  | timeout
  | invalidResponse
  deriving DecidableEq, Repr

/-- The value of a code. -/
def EspErr.code : EspErr → Int32
  | ok => 0
  | fail => -1
  | noMem => 0x101
  | invalidArg => 0x102
  | invalidState => 0x103
  | invalidSize => 0x104
  | notFound => 0x105
  | notSupported => 0x106
  | timeout => 0x107
  | invalidResponse => 0x108

end EsInverter
