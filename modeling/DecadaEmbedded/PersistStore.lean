import DecadaEmbedded.Conversions
import DecadaEmbedded.Library.Journal

/-!
# `PersistStore/persist_store.cpp`

The global key-value store holds a value under each key name. `rc` stands for what the `kv_*`
call of a function returns; a set that fails leaves the old value.
-/

namespace DecadaEmbedded.PersistStore
open Conversions Library

inductive PersistKey where
  | dummyInt | dummyStr | swVer | initFlag | time | wifiSsid | wifiPass | cycleInterval
  | clientCertificate | clientCertificateSn | clientPrivateKey
deriving DecidableEq, Repr

def PersistKey.name : PersistKey → String
  | .dummyInt => "dummy_int"
  | .dummyStr => "dummy_str"
  | .swVer => "sw_ver"
  | .initFlag => "init_flag"
  | .time => "time"
  | .wifiSsid => "wifi_ssid"
  | .wifiPass => "wifi_pass"
  | .cycleInterval => "scheduler_cycle_interval"
  | .clientCertificate => "client_certificate"
  | .clientCertificateSn => "client_certificate_sn"
  | .clientPrivateKey => "client_private_key"

abbrev Store := String → Option Bytes

-- each `kv_set` is atomic
abbrev Flash := Journal Store

structure ReadCodes where
  info : Int := 0
  get : Int := 0

def writeKey (rc : Int) (key : PersistKey) (val : Bytes) (store : Store) : Store :=
  if rc = 0 then Function.update store key.name (some (cstr val)) else store

-- the value goes over the first bytes of the buffer
def kvGet (value : Bytes) (size : Nat) (buffer : Bytes) : Bytes :=
  value.take size ++ buffer.drop (min size value.length)

/-- `kv_get_info` fails on a key that was never set. The buffer is an array of pointers, of which
the first `size + 1` bytes are zeroed and used. -/
def readKey (rc : ReadCodes) (key : PersistKey) (store : Store) : Bytes :=
  match store key.name with
  | none => []
  | some value =>
      if rc.info ≠ 0 then []
      else
        let size := value.length
        let buffer := kvGet value size (List.replicate (size + 1) 0)
        if rc.get ≠ 0 then [] else cstr buffer

/-- The record of `persist_config.h`. -/
structure PersistConfig where
  dummyInt : Int
  dummyStr : Bytes
deriving DecidableEq, Repr

def writeConfig (rcInt rcStr : Int) (pconf : PersistConfig) (store : Store) : Store :=
  writeKey rcStr .dummyStr pconf.dummyStr (writeKey rcInt .dummyInt (intToString pconf.dummyInt) store)
def writeSystemTime (rc : Int) (time : Int) : Store → Store := writeKey rc .time (timeToString time)
def writeSwVer (rc : Int) (swVer : Bytes) : Store → Store := writeKey rc .swVer swVer
def writeInitFlag (rc : Int) (flag : Bytes) : Store → Store := writeKey rc .initFlag flag
def writeWifiSsid (rc : Int) (ssid : Bytes) : Store → Store := writeKey rc .wifiSsid ssid
def writeWifiPass (rc : Int) (pass : Bytes) : Store → Store := writeKey rc .wifiPass pass
def writeCycleInterval (rc : Int) (interval : Bytes) : Store → Store :=
  writeKey rc .cycleInterval interval
def writeClientCertificate (rc : Int) (cert : Bytes) : Store → Store :=
  writeKey rc .clientCertificate cert
def writeClientCertificateSerialNumber (rc : Int) (certSn : Bytes) : Store → Store :=
  writeKey rc .clientCertificateSn certSn
def writeClientPrivateKey (rc : Int) (privateKey : Bytes) : Store → Store :=
  writeKey rc .clientPrivateKey privateKey

-- `junk` is what `StringToInt` and `StringToTime` return on an empty text
def readConfig (rcInt rcStr : ReadCodes) (junk : Int) (store : Store) : PersistConfig :=
  { dummyInt := stringToInt junk (readKey rcInt .dummyInt store)
    dummyStr := readKey rcStr .dummyStr store }
def readSystemTime (rc : ReadCodes) (type : TimeType) (junk : Int) (store : Store) : Int :=
  stringToTime type junk (readKey rc .time store)
def readSwVer (rc : ReadCodes) : Store → Bytes := readKey rc .swVer
def readInitFlag (rc : ReadCodes) : Store → Bytes := readKey rc .initFlag
def readWifiSsid (rc : ReadCodes) : Store → Bytes := readKey rc .wifiSsid
def readWifiPass (rc : ReadCodes) : Store → Bytes := readKey rc .wifiPass
def readCycleInterval (rc : ReadCodes) : Store → Bytes := readKey rc .cycleInterval
def readClientCertificate (rc : ReadCodes) : Store → Bytes := readKey rc .clientCertificate
def readClientCertificateSerialNumber (rc : ReadCodes) : Store → Bytes :=
  readKey rc .clientCertificateSn
def readClientPrivateKey (rc : ReadCodes) : Store → Bytes := readKey rc .clientPrivateKey

theorem PersistKey.name_injective : Function.Injective PersistKey.name := by
  intro key key' same
  cases key <;> cases key' <;> first | rfl | exact absurd same (by decide)

theorem cstr_kvGet (value : Bytes) :
    cstr (kvGet value value.length (List.replicate (value.length + 1) 0)) = cstr value := by
  have filled : kvGet value value.length (List.replicate (value.length + 1) 0) = value ++ [0] := by
    simp [kvGet, List.drop_replicate]
  rw [filled, cstr_append_zero]

theorem readKey_eq (rc : ReadCodes) (key : PersistKey) (store : Store) :
    readKey rc key store =
      match store key.name with
      | none => []
      | some value => if rc.info ≠ 0 ∨ rc.get ≠ 0 then [] else cstr value := by
  unfold readKey
  cases store key.name with
  | none => rfl
  | some value =>
      dsimp only
      rw [cstr_kvGet]
      split_ifs <;> simp_all

theorem writeKey_of_failed {rc : Int} (failed : rc ≠ 0) (key : PersistKey) (val : Bytes)
    (store : Store) : writeKey rc key val store = store :=
  if_neg failed

@[simp] theorem readKey_writeKey_self (key : PersistKey) (val : Bytes) (store : Store) :
    readKey {} key (writeKey 0 key val store) = cstr val := by
  simp [readKey_eq, writeKey]

theorem writeKey_apply_of_ne {key other : PersistKey} (different : other ≠ key) (rc : Int)
    (val : Bytes) (store : Store) : writeKey rc key val store other.name = store other.name := by
  unfold writeKey
  split_ifs
  · exact Function.update_of_ne (fun same => different (PersistKey.name_injective same)) _ _
  · rfl

theorem readKey_writeKey_of_ne {key other : PersistKey} (different : other ≠ key) (rc : Int)
    (codes : ReadCodes) (val : Bytes) (store : Store) :
    readKey codes other (writeKey rc key val store) = readKey codes other store := by
  simp only [readKey_eq, writeKey_apply_of_ne different]

theorem readKey_writeKey (rc : Int) (key other : PersistKey) (val : Bytes) (store : Store) :
    readKey {} other (writeKey rc key val store) =
      if other = key ∧ rc = 0 then cstr val else readKey {} other store := by
  by_cases same : other = key
  · subst same
    by_cases done : rc = 0
    · subst done
      simp
    · simp [writeKey_of_failed done, done]
  · simp [readKey_writeKey_of_ne same, same]

end DecadaEmbedded.PersistStore
