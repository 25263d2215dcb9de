import DecadaEmbedded.Http.Url

/-!
# What a URL leaves behind

Any URL at all, one that has been given up among them.
-/

namespace DecadaEmbedded.Http
open Conversions Library

namespace HttpParserUrl
variable (u : HttpParserUrl) (uf : UrlField) (off len p : Nat)

@[simp] theorem set_same : (u.set uf off len).fieldData uf = some (uint16 off, uint16 len) :=
  Function.update_self ..

@[simp] theorem lengthen_same :
    (u.lengthen uf).fieldData uf = (u.fieldData uf).map fun (off, len) => (off, uint16 (len + 1)) :=
  Function.update_self ..

@[simp] theorem move_same :
    (u.move uf p).fieldData uf = (u.fieldData uf).map fun (_, len) => (uint16 p, len) := Function.update_self ..

section Other
variable {u uf off len p} {other : UrlField} (differs : other ≠ uf)
include differs

theorem set_other : (u.set uf off len).fieldData other = u.fieldData other := Function.update_of_ne differs ..
theorem lengthen_other : (u.lengthen uf).fieldData other = u.fieldData other := Function.update_of_ne differs ..
theorem move_other : (u.move uf p).fieldData other = u.fieldData other := Function.update_of_ne differs ..

end Other

/-- A field that ends up to there, if it is set. -/
def Ends (u : HttpParserUrl) (uf : UrlField) (n : Nat) : Prop :=
  ∀ off len, u.fieldData uf = some (off, len) → off + len ≤ n

/-- All fields are inside of the first characters. -/
def Within (u : HttpParserUrl) (n : Nat) : Prop := ∀ uf, u.Ends uf n

variable {u uf off len p} {n : Nat}

theorem Within.mono {m : Nat} (within : u.Within n) (le : n ≤ m) : u.Within m :=
  fun uf off len found => (within uf off len found).trans le

theorem ends_set (inside : off + len ≤ n) : (u.set uf off len).Ends uf n := by
  intro off' len' found
  rw [set_same, Option.some.injEq, Prod.mk.injEq] at found
  have offBound := uint16_le off
  have lenBound := uint16_le len
  omega

theorem ends_lengthen (ends : u.Ends uf p) : (u.lengthen uf).Ends uf (p + 1) := by
  intro off len found
  rw [lengthen_same, Option.map_eq_some_iff] at found
  obtain ⟨⟨off', len'⟩, found, same⟩ := found
  obtain ⟨rfl, rfl⟩ := Prod.mk.inj same
  have inside := ends _ _ found
  have bound := uint16_le (len' + 1)
  omega

theorem Within.set (within : u.Within n) (inside : off + len ≤ n) : (u.set uf off len).Within n := by
  intro other
  by_cases same : other = uf
  · exact same ▸ ends_set inside
  · unfold Ends
    rw [set_other same]
    exact within other

theorem Within.lengthen (within : u.Within n) (ends : u.Ends uf p) (inside : p + 1 ≤ n) :
    (u.lengthen uf).Within n := by
  intro other
  by_cases same : other = uf
  · subst same
    exact fun off len found => (ends_lengthen ends off len found).trans inside
  · unfold Ends
    rw [lengthen_other same]
    exact within other

theorem Within.mem_take (within : u.Within n) {buf : Bytes} {c : UInt8} (member : c ∈ u.text buf uf) :
    c ∈ buf.take n := by
  unfold text at member
  split at member
  · rename_i off len found
    have inside := within uf off len found
    have piece : (buf.drop off).take len = ((buf.take n).drop off).take len := by
      rw [List.drop_take, List.take_take, Nat.min_eq_left (by omega)]
    rw [piece] at member
    exact List.mem_of_mem_drop (List.mem_of_mem_take member)
  · cases member

end HttpParserUrl

/-! ## The scan -/

theorem UrlScan.step_spec {scan next : UrlScan} {p : Nat} {ch : UInt8} (within : scan.u.Within p)
    (stepped : scan.step p ch = some next) :
    next.u.Within (p + 1) ∧ next.u.port = scan.u.port ∧ isBlank ch = false := by
  have wider := within.mono (Nat.le_succ p)
  have seen : isBlank ch = false := by
    by_contra blank
    rw [Bool.not_eq_false] at blank
    have given : parseUrlChar scan.s ch = .dead := if_pos blank
    unfold UrlScan.step at stepped
    rw [given] at stepped
    cases stepped
  unfold UrlScan.step at stepped
  dsimp only at stepped
  split at stepped
  · cases stepped
  · cases stepped
    exact ⟨wider, rfl, seen⟩
  · rename_i uf mark
    split_ifs at stepped with same
    · cases stepped
      exact ⟨wider.lengthen (within uf) le_rfl, rfl, seen⟩
    · cases stepped
      exact ⟨wider.set le_rfl, rfl, seen⟩

/-- What a scan has found is inside of the characters that it has passed, and no blank is among them. -/
theorem UrlScan.loop_spec {scan : UrlScan} {p : Nat} (within : scan.u.Within p) (rest : Bytes) :
    ∃ n ≤ rest.length, (scan.loop p rest).2.u.Within (p + n) ∧ (scan.loop p rest).2.u.port = scan.u.port ∧
      ∀ c ∈ rest.take n, isBlank c = false := by
  induction rest generalizing scan p with
  | nil => exact ⟨0, le_rfl, within, rfl, by simp⟩
  | cons ch rest ih =>
      unfold UrlScan.loop
      cases stepped : scan.step p ch with
      | none => exact ⟨0, Nat.zero_le _, within, rfl, by simp⟩
      | some next =>
          obtain ⟨within', port, seen⟩ := UrlScan.step_spec within stepped
          obtain ⟨n, short, found, port', passed⟩ := ih within'
          refine ⟨n + 1, by simpa using short, ?_, port'.trans port, ?_⟩
          · rw [Nat.add_comm n, ← Nat.add_assoc]
            exact found
          · rw [List.take_succ_cons]
            exact List.forall_mem_cons.mpr ⟨seen, passed⟩

/-! ## The host -/

-- no character of the host has been seen
def HostState.early : HostState → Bool
  | userinfoStart | userinfo | hostStart | hostV6Start => true
  | _ => false

theorem parseHostChar_early {s newS : HostState} {ch : UInt8} (stepped : parseHostChar s ch = newS)
    (alive : newS ≠ .dead) :
    (newS.early → s.early) ∧ (newS = .host ∨ newS = .hostV6 → s ≠ newS → s.early) := by
  subst stepped
  cases s with
  | dead => exact absurd rfl alive
  | _ =>
      simp only [parseHostChar] at alive ⊢
      split_ifs at alive ⊢ <;> simp_all [HostState.early]

structure HostInv (u : HttpParserUrl) (s : HostState) (p n : Nat) : Prop where
  within : u.Within n
  port : u.port = 0
  host : u.Ends .host p
  unseen : s.early → ∀ off len, u.fieldData .host = some (off, len) → len = 0
  portField : s = .hostPort → u.Ends .port p
  userinfo : s = .userinfo → u.Ends .userinfo p

namespace HostInv
variable {u : HttpParserUrl} {s newS : HostState} {p n : Nat} (inv : HostInv u s p n)
include inv

theorem other (quiet : newS ≠ .hostPort ∧ newS ≠ .userinfo) (unseen : newS.early → s.early) :
    HostInv u newS (p + 1) n where
  within := inv.within
  port := inv.port
  host off len found := (inv.host off len found).trans (Nat.le_succ p)
  unseen early := inv.unseen (unseen early)
  portField here := absurd here quiet.1
  userinfo here := absurd here quiet.2

theorem lengthen_host (inside : p + 1 ≤ n) (seen : newS.early = false)
    (quiet : newS ≠ .hostPort ∧ newS ≠ .userinfo) : HostInv (u.lengthen .host) newS (p + 1) n where
  within := inv.within.lengthen inv.host inside
  port := inv.port
  host := HttpParserUrl.ends_lengthen inv.host
  unseen early := absurd early (by simp [seen])
  portField here := absurd here quiet.1
  userinfo here := absurd here quiet.2

theorem move_host (early : s.early) (inside : p ≤ n) : HostInv (u.move .host p) s p n := by
  have moved : (u.move .host p).Ends .host p ∧ ∀ off len, (u.move .host p).fieldData .host = some (off, len) → len = 0 := by
    have both (off len : Nat) (found : (u.move .host p).fieldData .host = some (off, len)) : off ≤ p ∧ len = 0 := by
      rw [HttpParserUrl.move_same, Option.map_eq_some_iff] at found
      obtain ⟨⟨off', len'⟩, found, same⟩ := found
      obtain ⟨rfl, rfl⟩ := Prod.mk.inj same
      exact ⟨uint16_le p, inv.unseen early _ _ found⟩
    constructor
    · intro off len found
      obtain ⟨bound, rfl⟩ := both off len found
      exact bound
    · exact fun off len found => (both off len found).2
  refine ⟨fun uf => ?_, inv.port, moved.1, fun _ => moved.2, fun here => ?_, fun here => ?_⟩
  · by_cases same : uf = .host
    · subst same
      exact fun off len found => (moved.1 off len found).trans inside
    · unfold HttpParserUrl.Ends
      rw [HttpParserUrl.move_other same]
      exact inv.within uf
  · unfold HttpParserUrl.Ends
    rw [HttpParserUrl.move_other (by decide)]
    exact inv.portField here
  · unfold HttpParserUrl.Ends
    rw [HttpParserUrl.move_other (by decide)]
    exact inv.userinfo here

/-- A field beside the host, which begins here unless it goes on. -/
theorem grow {uf : UrlField} (beside : uf ≠ .host) (inside : p + 1 ≤ n) (goesOn : s = newS → u.Ends uf p) :
    let v := (if s ≠ newS then u.set uf p 0 else u).lengthen uf
    v.Within n ∧ v.port = 0 ∧ v.Ends uf (p + 1) ∧ v.fieldData .host = u.fieldData .host := by
  dsimp only
  split_ifs with begins
  · have here : (u.set uf p 0).Ends uf p := HttpParserUrl.ends_set le_rfl
    refine ⟨(inv.within.set (by omega)).lengthen here inside, inv.port, HttpParserUrl.ends_lengthen here, ?_⟩
    rw [HttpParserUrl.lengthen_other beside.symm, HttpParserUrl.set_other beside.symm]
  · have here := goesOn (not_not.mp begins)
    refine ⟨inv.within.lengthen here inside, inv.port, HttpParserUrl.ends_lengthen here, ?_⟩
    rw [HttpParserUrl.lengthen_other beside.symm]

theorem step {ch : UInt8} (stepped : parseHostChar s ch = newS) (alive : newS ≠ .dead) (inside : p + 1 ≤ n) :
    HostInv (u.hostStep s newS p) newS (p + 1) n := by
  obtain ⟨early, begins⟩ := parseHostChar_early stepped alive
  cases newS with
  | dead => exact absurd rfl alive
  | host =>
      unfold HttpParserUrl.hostStep
      dsimp only
      split_ifs with fresh
      · exact (inv.move_host (begins (.inl rfl) fresh) (by omega)).lengthen_host inside rfl (by decide)
      · exact inv.lengthen_host inside rfl (by decide)
  | hostV6 =>
      unfold HttpParserUrl.hostStep
      dsimp only
      split_ifs with fresh
      · exact (inv.move_host (begins (.inr rfl) fresh) (by omega)).lengthen_host inside rfl (by decide)
      · exact inv.lengthen_host inside rfl (by decide)
  | hostV6ZoneStart | hostV6Zone => exact inv.lengthen_host inside rfl (by decide)
  | hostPort =>
      obtain ⟨within, port, ends, same⟩ := inv.grow (by decide : UrlField.port ≠ .host) inside inv.portField
      refine ⟨within, port, fun off len found => ?_, fun early => absurd early (by decide), fun _ => ends,
        fun here => absurd here (by decide)⟩
      exact (inv.host off len (same ▸ found)).trans (Nat.le_succ p)
  | userinfo =>
      obtain ⟨within, port, ends, same⟩ := inv.grow (by decide : UrlField.userinfo ≠ .host) inside inv.userinfo
      refine ⟨within, port, fun off len found => ?_, fun _ off len found => ?_, fun here => absurd here (by decide),
        fun _ => ends⟩
      · exact (inv.host off len (same ▸ found)).trans (Nat.le_succ p)
      · exact inv.unseen (early rfl) off len (same ▸ found)
  | userinfoStart | hostStart | hostV6Start | hostV6End | hostPortStart => exact inv.other (by decide) early

end HostInv

theorem HttpParserUrl.hostLoop_spec {u : HttpParserUrl} {s : HostState} {p n : Nat} (inv : HostInv u s p n) {rest : Bytes}
    (inside : p + rest.length ≤ n) : (u.hostLoop s p rest).2.Within n ∧ (u.hostLoop s p rest).2.port = 0 := by
  induction rest generalizing u s p with
  | nil => exact ⟨inv.within, inv.port⟩
  | cons ch rest ih =>
      rw [List.length_cons] at inside
      unfold HttpParserUrl.hostLoop
      dsimp only
      split_ifs with dead
      · exact ⟨inv.within, inv.port⟩
      · exact ih (inv.step rfl dead (by omega)) (by omega)

theorem HttpParserUrl.parseHost_spec {u : HttpParserUrl} {n : Nat} (within : u.Within n) (port : u.port = 0) (buf : Bytes)
    (foundAt : Bool) : (u.parseHost buf foundAt).2.Within n ∧ (u.parseHost buf foundAt).2.port = 0 := by
  unfold HttpParserUrl.parseHost
  cases host : u.fieldData .host with
  | none => exact ⟨within, port⟩
  | some data =>
      obtain ⟨off, len⟩ := data
      have inside := within .host off len host
      have empty (off' len' : Nat) (found : (u.set .host off 0).fieldData .host = some (off', len')) : len' = 0 := by
        rw [HttpParserUrl.set_same, Option.some.injEq, Prod.mk.injEq] at found
        exact found.2.symm
      refine HttpParserUrl.hostLoop_spec ⟨within.set (by omega), port, HttpParserUrl.ends_set le_rfl,
        fun _ => empty, ?_, ?_⟩ (by rw [List.length_take]; omega)
      · cases foundAt <;> exact fun here => absurd here (by decide)
      · cases foundAt <;> exact fun here => absurd here (by decide)

/-- The fields of any URL are inside of a start of it that is free of blanks, and its port is a port. -/
theorem httpParserParseUrl_spec (buf : Bytes) :
    ∃ n ≤ buf.length, (httpParserParseUrl buf).2.Within n ∧ (httpParserParseUrl buf).2.port ≤ 65535 ∧
      ∀ c ∈ buf.take n, isBlank c = false := by
  obtain ⟨n, short, within, port, passed⟩ := @UrlScan.loop_spec {} 0 (fun _ _ _ found => nomatch found) buf
  rw [Nat.zero_add] at within
  unfold httpParserParseUrl
  generalize ({} : UrlScan).loop 0 buf = scanned at within port
  obtain ⟨ok, scan⟩ := scanned
  dsimp only at within port
  refine ⟨n, short, ?_⟩
  rw [← and_assoc]
  refine ⟨?_, passed⟩
  have done {u : HttpParserUrl} (within : u.Within n) (port : u.port = 0) : u.Within n ∧ u.port ≤ 65535 :=
    ⟨within, by omega⟩
  cases ok with
  | false => exact done within port
  | true =>
      by_cases hostless : scan.u.fieldData .schema ≠ none ∧ scan.u.fieldData .host = none
      · simp only [if_pos hostless]
        exact done within port
      · simp only [if_neg hostless]
        have hosted : (if scan.u.fieldData .host = none then (true, scan.u) else scan.u.parseHost buf scan.foundAt).2.Within n ∧
            (if scan.u.fieldData .host = none then (true, scan.u) else scan.u.parseHost buf scan.foundAt).2.port = 0 := by
          split_ifs
          · exact ⟨within, port⟩
          · exact HttpParserUrl.parseHost_spec within port buf scan.foundAt
        generalize (if scan.u.fieldData .host = none then (true, scan.u) else scan.u.parseHost buf scan.foundAt) = result
          at hosted
        obtain ⟨_ | _, u⟩ := result
        · exact done hosted.1 hosted.2
        · dsimp only at hosted ⊢
          split
          · exact done hosted.1 hosted.2
          · split_ifs with exceeds
            · exact done hosted.1 hosted.2
            · exact ⟨hosted.1, Nat.not_lt.mp exceeds⟩

theorem strtoul_of_isDigit {c : UInt8} {rest : Bytes} (digit : isDigit c) :
    strtoul (c :: rest) = min ulongMax (digitsValue ((c :: rest).takeWhile isDigit)) := by
  unfold strtoul
  rw [List.dropWhile_cons_of_neg (by simp [isSpace_of_isDigit digit])]
  split
  · rename_i same
    cases same
    cases digit
  · rename_i same
    cases same
    cases digit
  · rfl

/-- No copy of `ParsedUrl` leaves the URL. There always are a path and a port, and no part has a blank in it:
the request line ends where it is to end. -/
theorem parsedUrl_clean (url : Bytes) :
    (httpParserParseUrl (cstr url)).2.Within (cstr url).length ∧
      (ParsedUrl.new url).path ≠ [] ∧ 0 < (ParsedUrl.new url).port ∧ (ParsedUrl.new url).port ≤ 65535 ∧
      ∀ part ∈ [(ParsedUrl.new url).schema, (ParsedUrl.new url).host, (ParsedUrl.new url).path,
        (ParsedUrl.new url).query, (ParsedUrl.new url).userinfo], ∀ c ∈ part, c ≠ 0 ∧ isBlank c = false := by
  obtain ⟨n, short, within, port, passed⟩ := httpParserParseUrl_spec (cstr url)
  have clean (uf : UrlField) : ∀ c ∈ (httpParserParseUrl (cstr url)).2.text (cstr url) uf,
      c ≠ 0 ∧ isBlank c = false := by
    intro c member
    have early := within.mem_take member
    have unended : c ≠ 0 := by simpa using List.mem_takeWhile_imp (List.mem_of_mem_take early)
    exact ⟨unended, passed c early⟩
  refine ⟨within.mono short, ?_, ?_, ?_, ?_⟩
  · unfold ParsedUrl.new
    dsimp only
    split_ifs with empty
    · exact List.cons_ne_nil _ _
    · exact empty
  · unfold ParsedUrl.new
    dsimp only
    split_ifs <;> omega
  · unfold ParsedUrl.new
    dsimp only
    split_ifs <;> omega
  · simp only [List.forall_mem_cons, List.not_mem_nil, false_imp_iff, implies_true, and_true]
    refine ⟨clean .schema, clean .host, ?_, clean .query, clean .userinfo⟩
    unfold ParsedUrl.new
    dsimp only
    split_ifs with empty
    · exact List.forall_mem_singleton.mpr (by decide)
    · exact clean .path

end DecadaEmbedded.Http
