import DecadaEmbedded.Library.Registers
import DecadaEmbedded.PersistStore

/-!
# The items of the persistent store

Each pair of a `WriteX` and a `ReadX` function is one item over its own keys of the key-value store,
whose operations succeed here. `junk` is what an unassigned local of the readers holds.
-/

namespace DecadaEmbedded.PersistStore
open Conversions Library

inductive Item where
  | config | systemTime | swVer | initFlag | wifiSsid | wifiPass | cycleInterval
  | clientCertificate | clientCertificateSerialNumber | clientPrivateKey
deriving DecidableEq, Repr

abbrev CText := { text : Bytes // 0 ∉ text }

abbrev CTime (type : TimeType) := { time : Int // InTime type time }

def Item.Given (type : TimeType) : Item → Type
  | .config => CInt × CText
  | .systemTime => CTime type
  | _ => CText

def Item.Held : Item → Type
  | .config => PersistConfig
  | .systemTime => Int
  | _ => Bytes

variable (type : TimeType) (junk : Int)

def Item.write : ∀ item : Item, item.Given type → Store → Store
  | .config, value => writeConfig 0 0 ⟨value.1.val, value.2.val⟩
  | .systemTime, value => writeSystemTime 0 value.val
  | .swVer, value => writeSwVer 0 value.val
  | .initFlag, value => writeInitFlag 0 value.val
  | .wifiSsid, value => writeWifiSsid 0 value.val
  | .wifiPass, value => writeWifiPass 0 value.val
  | .cycleInterval, value => writeCycleInterval 0 value.val
  | .clientCertificate, value => writeClientCertificate 0 value.val
  | .clientCertificateSerialNumber, value => writeClientCertificateSerialNumber 0 value.val
  | .clientPrivateKey, value => writeClientPrivateKey 0 value.val

def Item.read : ∀ item : Item, Store → item.Held
  | .config => readConfig {} {} junk
  | .systemTime => readSystemTime {} type junk
  | .swVer => readSwVer {}
  | .initFlag => readInitFlag {}
  | .wifiSsid => readWifiSsid {}
  | .wifiPass => readWifiPass {}
  | .cycleInterval => readCycleInterval {}
  | .clientCertificate => readClientCertificate {}
  | .clientCertificateSerialNumber => readClientCertificateSerialNumber {}
  | .clientPrivateKey => readClientPrivateKey {}

def Item.view : ∀ item : Item, item.Given type → item.Held
  | .config, value => ⟨value.1.val, value.2.val⟩
  | .systemTime, value => value.val
  | .swVer, value => value.val
  | .initFlag, value => value.val
  | .wifiSsid, value => value.val
  | .wifiPass, value => value.val
  | .cycleInterval, value => value.val
  | .clientCertificate, value => value.val
  | .clientCertificateSerialNumber, value => value.val
  | .clientPrivateKey, value => value.val

def Item.keys : Item → List PersistKey
  | .config => [.dummyInt, .dummyStr]
  | .systemTime => [.time]
  | .swVer => [.swVer]
  | .initFlag => [.initFlag]
  | .wifiSsid => [.wifiSsid]
  | .wifiPass => [.wifiPass]
  | .cycleInterval => [.cycleInterval]
  | .clientCertificate => [.clientCertificate]
  | .clientCertificateSerialNumber => [.clientCertificateSn]
  | .clientPrivateKey => [.clientPrivateKey]

theorem Item.eq_of_mem_keys {item other : Item} {key : PersistKey} (member : key ∈ item.keys)
    (memberOther : key ∈ other.keys) : other = item := by
  cases item <;> cases other <;> first | rfl | (simp [keys] at member memberOther; simp_all)

theorem Item.write_apply_of_not_mem {item : Item} {key : PersistKey} (outside : key ∉ item.keys)
    (value : item.Given type) (store : Store) :
    item.write type value store key.name = store key.name := by
  cases item with
  | config =>
      simp only [keys, List.mem_cons, List.not_mem_nil, or_false, not_or] at outside
      exact (writeKey_apply_of_ne outside.2 0 _ _).trans (writeKey_apply_of_ne outside.1 0 _ _)
  | _ => exact writeKey_apply_of_ne (List.ne_of_not_mem_cons outside) 0 _ _

theorem readKey_congr {key : PersistKey} {store store' : Store} (codes : ReadCodes)
    (same : store key.name = store' key.name) : readKey codes key store = readKey codes key store' := by
  simp only [readKey_eq, same]

theorem Item.read_congr {item : Item} {store store' : Store}
    (same : ∀ key ∈ item.keys, store key.name = store' key.name) :
    item.read type junk store = item.read type junk store' := by
  cases item with
  | config =>
      have number := readKey_congr {} (same .dummyInt (by decide))
      have text := readKey_congr {} (same .dummyStr (by decide))
      exact congrArg₂ PersistConfig.mk (congrArg (stringToInt junk) number) text
  | systemTime =>
      exact congrArg (stringToTime type junk) (readKey_congr {} (same .time (by decide)))
  | _ => exact readKey_congr {} (same _ (List.mem_singleton.mpr rfl))

theorem readKey_writeKey_nulFree (key : PersistKey) {val : Bytes} (nulFree : 0 ∉ val) (store : Store) :
    readKey {} key (writeKey 0 key val store) = val := by
  rw [readKey_writeKey_self, cstr_of_nulFree nulFree]

theorem readConfig_writeConfig (number : CInt) (text : CText) (store : Store) :
    readConfig {} {} junk (writeConfig 0 0 ⟨number.val, text.val⟩ store) = ⟨number.val, text.val⟩ := by
  have int := readKey_writeKey_nulFree .dummyInt (nulFree_intToString number.val) store
  simp only [readConfig, writeConfig, readKey_writeKey_nulFree _ text.property,
    @readKey_writeKey_of_ne .dummyStr .dummyInt (by decide), int,
    stringToInt_intToString junk number.property]

theorem readSystemTime_writeSystemTime (time : CTime type) (store : Store) :
    readSystemTime {} type junk (writeSystemTime 0 time.val store) = time.val := by
  have text := readKey_writeKey_nulFree .time (nulFree_decimalInt time.val) store
  simp only [readSystemTime, writeSystemTime, timeToString, text]
  exact stringToTime_timeToString type junk time.property

theorem Item.read_write (item : Item) (value : item.Given type) (store : Store) :
    item.read type junk (item.write type value store) = item.view type value := by
  cases item with
  | config => exact readConfig_writeConfig junk value.1 value.2 store
  | systemTime => exact readSystemTime_writeSystemTime type junk value store
  | swVer => exact readKey_writeKey_nulFree .swVer value.property store
  | initFlag => exact readKey_writeKey_nulFree .initFlag value.property store
  | wifiSsid => exact readKey_writeKey_nulFree .wifiSsid value.property store
  | wifiPass => exact readKey_writeKey_nulFree .wifiPass value.property store
  | cycleInterval => exact readKey_writeKey_nulFree .cycleInterval value.property store
  | clientCertificate => exact readKey_writeKey_nulFree .clientCertificate value.property store
  | clientCertificateSerialNumber =>
      exact readKey_writeKey_nulFree .clientCertificateSn value.property store
  | clientPrivateKey => exact readKey_writeKey_nulFree .clientPrivateKey value.property store

def items : Registers Store (Item.Given type) Item.Held where
  write := Item.write type
  read := Item.read type junk
  view := Item.view type
  read_write := Item.read_write type junk
  read_write_of_ne := by
    intro item other different value store
    refine Item.read_congr type junk fun key member => ?_
    refine Item.write_apply_of_not_mem type (fun memberItem => different ?_) value store
    exact Item.eq_of_mem_keys memberItem member

/-- After any writes each reader returns what was last given to its writer, and without such a
write what it returned before. -/
theorem read_eq_lastGiven (store : Store) (writes : List (Sigma (Item.Given type))) (item : Item) :
    item.read type junk
        (writes.foldl (fun store given => given.1.write type given.2 store) store) =
      ((Registers.lastGiven item writes).map (item.view type)).getD (item.read type junk store) :=
  (items type junk).read_writeAll item store writes

end DecadaEmbedded.PersistStore
