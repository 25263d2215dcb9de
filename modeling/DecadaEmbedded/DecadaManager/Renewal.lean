import DecadaEmbedded.DecadaManager.Rest
import DecadaEmbedded.Json.Writer
import DecadaEmbedded.PersistStore

/-!
# The serial number that `RenewClientCertificate` sends

The number is stored as the text that the cloud returned and read back through `StringToInt`. With an
empty indentation the stream writer prints an object of integers as the fast writer does.
-/

namespace DecadaEmbedded.DecadaManager
open Library Conversions Json Json.Writer PersistStore

structure SerialNumber where
  text : Bytes
  nonempty : text ≠ []
  digits : text.all isDigit

def SerialNumber.value (serial : SerialNumber) : Nat := digitsValue serial.text

def renewalBody (certSn : Bytes) : Bytes :=
  str "\x7b\"certSn\":" ++ certSn ++ str ",\"validDay\":365\x7d"

def NamesSerial (request : HttpsRequest) (serial : SerialNumber) : Prop :=
  request.body = renewalBody (decimal serial.value)

def storedRenewalRequest (cloud : Cloud) (now junk : Int) (accessToken : Bytes) (store : Store) :
    HttpsRequest :=
  renewClientCertificateRequest { cloud with writeString := writeValue } now junk
    (readClientCertificateSerialNumber {} store) accessToken

theorem nulFree_of_isDigit {text : Bytes} (digits : text.all isDigit) : 0 ∉ text := fun zero =>
  absurd (List.all_eq_true.mp digits 0 zero) (by decide)

theorem writeValue_renewal (certSn : Int) :
    writeValue (.object [(str "certSn", .int certSn), (str "validDay", .int 365)]) =
      renewalBody (decimalInt certSn) := by
  have names : valueToQuotedString (str "certSn") = str "\"certSn\"" ∧
      valueToQuotedString (str "validDay") = str "\"validDay\"" := by decide
  simp only [writeValue, writeMembers, names, renewalBody, List.append_assoc]
  rfl

theorem decimalInt_injective : Function.Injective decimalInt :=
  Function.LeftInverse.injective leadingInteger_decimalInt

theorem nulFree_renewalBody (certSn : Int) : 0 ∉ renewalBody (decimalInt certSn) := by
  rw [← writeValue_renewal]
  refine nulFree_writeValue (.object ?_)
  simp only [List.forall_mem_cons, List.not_mem_nil, false_implies, implies_true, and_true]
  exact ⟨.int certSn, .int 365⟩

theorem body_renewClientCertificateRequest (cloud : Cloud) (now junk : Int) (certSn accessToken : Bytes) :
    (renewClientCertificateRequest { cloud with writeString := writeValue } now junk certSn
      accessToken).body = renewalBody (decimalInt (stringToInt junk certSn)) := by
  simp only [renewClientCertificateRequest, certificateRequest, writeValue_renewal,
    cstr_of_nulFree (nulFree_renewalBody _)]

theorem body_storedRenewalRequest (cloud : Cloud) (now junk : Int) (accessToken : Bytes)
    (store : Store) (serial : SerialNumber) :
    (storedRenewalRequest cloud now junk accessToken
      (writeClientCertificateSerialNumber 0 serial.text store)).body =
        renewalBody (decimalInt (min intMax serial.value)) := by
  rw [storedRenewalRequest, body_renewClientCertificateRequest, readClientCertificateSerialNumber,
    writeClientCertificateSerialNumber, readKey_writeKey_self,
    cstr_of_nulFree (nulFree_of_isDigit serial.digits),
    stringToInt_of_isDigit junk serial.nonempty serial.digits, SerialNumber.value]

theorem renewalBody_injective : Function.Injective renewalBody := by
  intro certSn certSn' same
  exact List.append_cancel_left (List.append_cancel_right same)

theorem namesSerial_storedRenewalRequest_iff (cloud : Cloud) (now junk : Int) (accessToken : Bytes)
    (store : Store) (serial : SerialNumber) :
    NamesSerial (storedRenewalRequest cloud now junk accessToken
      (writeClientCertificateSerialNumber 0 serial.text store)) serial ↔
        serial.value ≤ 2147483647 := by
  rw [NamesSerial, body_storedRenewalRequest]
  constructor
  · intro same
    have number : min intMax (serial.value : Int) = serial.value :=
      decimalInt_injective (renewalBody_injective same)
    unfold intMax at number
    omega
  · intro small
    have number : min intMax (serial.value : Int) = serial.value := by
      unfold intMax
      omega
    rw [number]
    rfl

def longSerial : SerialNumber where
  text := str "2147483648"
  nonempty := by decide
  digits := by decide

theorem namesSerial_violated : ¬ ∀ (cloud : Cloud) (now junk : Int) (accessToken : Bytes) (store : Store)
    (serial : SerialNumber),
    NamesSerial (storedRenewalRequest cloud now junk accessToken
      (writeClientCertificateSerialNumber 0 serial.text store)) serial := by
  intro names
  have same := names (answering []) 0 0 [] (fun _ => none) longSerial
  rw [NamesSerial, body_storedRenewalRequest] at same
  exact absurd (renewalBody_injective same) (by decide)

end DecadaEmbedded.DecadaManager
