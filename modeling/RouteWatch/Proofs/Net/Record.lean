/-
Every way to a prefix and every form of one. The forms read back: bare or
with its length, or as a record, a prefix is the one that was written, and no
two prefixes are written alike. The ways keep the length within the family's
bits, but for one: a record is read with any length of one byte, and a prefix
that is too long for its family has a text that is none.
-/
import RouteWatch.Net.Record
import RouteWatch.Proofs.Keyed
import RouteWatch.Proofs.Net.Prefix

namespace RouteWatch.Prefix

/-! ## Texts -/

theorem no_slash_of_read? {s : Text} {address : Address} (h : Address.read? s = some address) :
    '/' ∉ s := fun hmem => absurd ((Address.isChar_of_read? h).2 _ hmem) (by decide)

/-- An address in any spelling is the prefix of its host. -/
theorem parse_bare {s : Text} {address : Address} (h : Address.read? s = some address) :
    parse s = .ok (host address) := by
  rw [parse, splitLastSlash?_of_no_slash (no_slash_of_read? h), h]

/-- An address in any spelling and a length of one byte are what `make` says of them. -/
theorem parse_slash {s : Text} {address : Address} (h : Address.read? s = some address)
    {length : Nat} (hle : length ≤ 255) :
    parse (s ++ '/' :: Text.ofNat length) = make address length := by
  simp only [parse, splitLastSlash?_append s (no_slash_ofNat length), h, Text.toCount?_ofNat hle]

theorem splitLastSlash?_eq_none {s : Text} : splitLastSlash? s = none ↔ '/' ∉ s := by
  constructor
  · intro h
    induction s with
    | nil => exact List.not_mem_nil
    | cons c s ih =>
      rw [splitLastSlash?] at h
      split at h
      · cases h
      · rename_i hrest
        split at h
        · cases h
        · rename_i hc
          exact List.not_mem_cons_of_ne_of_not_mem (Ne.symm hc) (ih hrest)
  · exact splitLastSlash?_of_no_slash

theorem splitLastSlash?_eq_some {s before after : Text} :
    splitLastSlash? s = some (before, after) ↔ s = before ++ '/' :: after ∧ '/' ∉ after := by
  constructor
  · intro h
    induction s generalizing before with
    | nil => cases h
    | cons c s ih =>
      rw [splitLastSlash?] at h
      split at h
      · rename_i before' after' hrest
        obtain ⟨rfl, rfl⟩ := Prod.mk.inj (Option.some.inj h)
        obtain ⟨rfl, hafter⟩ := ih hrest
        exact ⟨rfl, hafter⟩
      · rename_i hrest
        split at h
        · rename_i hc
          obtain ⟨rfl, rfl⟩ := Prod.mk.inj (Option.some.inj h)
          exact ⟨congrArg (· :: _) hc, splitLastSlash?_eq_none.1 hrest⟩
        · cases h
  · rintro ⟨rfl, h⟩
    exact splitLastSlash?_append before h

theorem no_slash_of_toCount? {max n : Nat} {s : Text} (h : Text.toCount? max s = some n) :
    '/' ∉ s := fun hmem => absurd (Text.mem_of_toCount? h _ hmem) (by decide)

/-- **The texts of a prefix**: an address for its host, or an address, a slash and a length that
its family allows. -/
theorem read?_eq_some {s : Text} {p : Prefix} :
    read? s = some p ↔ (∃ address, Address.read? s = some address ∧ p = host address) ∨
      ∃ before after address length, s = before ++ '/' :: after ∧
        Address.read? before = some address ∧ Text.toCount? 255 after = some length ∧
        length ≤ address.family.bits ∧ p = ⟨address, length⟩ := by
  rw [← parse_eq_ok]
  constructor
  · intro h
    rw [parse] at h
    split at h
    · split at h
      · rename_i address haddress
        exact .inl ⟨address, haddress, (Except.ok.inj h).symm⟩
      · cases h
    · rename_i before after hsplit
      split at h
      · rename_i address length haddress hlength
        obtain ⟨rfl, hfits⟩ := make_eq_ok.1 h
        exact .inr ⟨before, after, address, length, (splitLastSlash?_eq_some.1 hsplit).1, haddress,
          hlength, hfits, rfl⟩
      · cases h
  · rintro (⟨address, haddress, rfl⟩ | ⟨before, after, address, length, rfl, haddress, hlength,
      hle, rfl⟩)
    · exact parse_bare haddress
    · have hsplit := splitLastSlash?_append before (no_slash_of_toCount? hlength)
      simp only [parse, hsplit, haddress, hlength]
      exact make_eq_ok.2 ⟨rfl, hle⟩

theorem bits_le (family : Family) : family.bits ≤ 128 := by cases family <;> decide

/-- The length of a host may be left out. -/
theorem parse_full {s : Text} {address : Address} (h : Address.read? s = some address) :
    parse (s ++ '/' :: Text.ofNat address.family.bits) = .ok (host address) := by
  have hle : address.family.bits ≤ 255 := Nat.le_trans (bits_le _) (by decide)
  rw [parse_slash h hle, make, if_pos (Nat.le_refl _)]
  rfl

theorem print_ne_cidr (address : Address) (p : Prefix) : address.print ≠ p.cidr := by
  intro heq
  have hslash : '/' ∈ p.cidr := by simp [cidr]
  exact no_slash_print address (heq ▸ hslash)

theorem address_eq_of_print {a b : Address} (h : a.print = b.print) : a = b := by
  have hread := congrArg Address.read? h
  rwa [Address.read?_print, Address.read?_print, Option.some.injEq] at hread

/-- **No two prefixes are written alike**, be they within their family's bits or not. -/
theorem print_inj {p q : Prefix} (h : p.print = q.print) : p = q := by
  have hhost : ∀ r : Prefix, r.isHost = true → r = host r.address := by
    intro r hr
    have hlength : r.length = r.family.bits := by simpa [isHost] using hr
    cases r
    exact congrArg (mk _) hlength
  rw [print, print] at h
  split at h <;> split at h
  · rename_i hp hq
    rw [hhost p hp, hhost q hq, address_eq_of_print h]
  · exact absurd h (print_ne_cidr _ _)
  · exact absurd h.symm (print_ne_cidr _ _)
  · exact cidr_inj h

/-- The written form of the prefix that a text is. -/
def canonical? (s : Text) : Option Text := (read? s).map print

/-- Texts are the same prefix exactly when they have the same written form. -/
theorem read?_eq_iff {s t : Text} : read? s = read? t ↔ canonical? s = canonical? t := by
  have hinj : Function.Injective print := fun _ _ => print_inj
  exact (Option.map_injective hinj).eq_iff.symm

/-! ## Records -/

/-- A record is read back with any length of one byte. -/
theorem ofJson?_toJson {p : Prefix} (h : p.length ≤ 255) : ofJson? p.toJson = some p := by
  let entries : List (Text × Json) :=
    [(addressKey, p.address.toJson), (lengthKey, .number (.natural p.length))]
  have hkeys : (entries.map (·.1)).Nodup := (by decide : [addressKey, lengthKey].Nodup)
  have hfield : ∀ key, p.toJson.field? key = valueOf? key entries := Keyed.get?_ofList hkeys
  have haddress : p.toJson.field? addressKey = some p.address.toJson := hfield addressKey
  have hlength : p.toJson.field? lengthKey = some (.number (.natural p.length)) := hfield lengthKey
  have hparts : ofParts? p.address.toJson (.number (.natural p.length)) = some p := by
    simp [ofParts?, Address.ofJson?, Address.toJson, Address.read?_print, lengthOf?, h]
  rw [ofJson?.eq_2 p.toJson (by simp [toJson]), haddress, hlength]
  exact hparts

theorem length_le_of_ofParts? {address length : Json} {p : Prefix}
    (h : ofParts? address length = some p) : p.length ≤ 255 := by
  simp only [ofParts?, Option.bind_eq_bind, Option.bind_eq_some_iff, Option.pure_def,
    Option.some.injEq] at h
  obtain ⟨_, -, n, hlength, rfl⟩ := h
  rw [lengthOf?.eq_def] at hlength
  split at hlength
  · obtain ⟨hle, hn⟩ := Option.ite_none_right_eq_some.1 hlength
    exact Option.some.inj hn ▸ hle
  · cases hlength

/-- Whatever record is read, its length is one byte. -/
theorem length_le_of_ofJson? {value : Json} {p : Prefix} (h : ofJson? value = some p) :
    p.length ≤ 255 := by
  rw [ofJson?.eq_def] at h
  split at h
  · exact length_le_of_ofParts? h
  · split at h
    · exact length_le_of_ofParts? h
    · cases h

/-- **Every form of a prefix is read back.** A prefix that is made of an address and a length that
its family allows is read from its written form, from address and length, and from its record. No
two prefixes are written alike, so two texts are the same prefix, or none, exactly when they have
the same written form; and an address in any spelling is the same prefix bare and with all its
bits. -/
theorem forms_read_back :
    (∀ (address : Address) (length : Nat), length ≤ address.family.bits →
      ∃ p, make address length = .ok p ∧ parse p.print = .ok p ∧ parse p.cidr = .ok p ∧
        ofJson? p.toJson = some p) ∧
    (∀ p q : Prefix, p.print = q.print → p = q) ∧
    (∀ s t : Text, read? s = read? t ↔ canonical? s = canonical? t) ∧
    ∀ (s : Text) (address : Address), Address.read? s = some address →
      parse s = .ok (host address) ∧
        parse (s ++ '/' :: Text.ofNat address.family.bits) = .ok (host address) := by
  refine ⟨fun address length hle => ?_, fun _ _ => print_inj, fun _ _ => read?_eq_iff,
    fun s address hread => ⟨parse_bare hread, parse_full hread⟩⟩
  have hfits : (⟨address, length⟩ : Prefix).Fits := hle
  have hbyte := hfits.length_le
  exact ⟨⟨address, length⟩, make_eq_ok.2 ⟨rfl, hfits⟩, parse_eq_ok.2 (read?_print hfits),
    parse_eq_ok.2 (read?_cidr hfits), ofJson?_toJson (Nat.le_trans hbyte (by decide))⟩

/-- A network of addresses that map IPv4, and an address in a spelling of its own. -/
theorem forms_read_back_mapped :
    let mapped : Address := .v6 ⟨[0, 0, 0, 0, 0, 0xFFFF, 0x0A00, 1], rfl⟩
    let linkLocal : Address := .v6 ⟨[0xFE80, 0, 0, 0, 0, 0, 0, 1], rfl⟩
    (96 ≤ mapped.family.bits ∧ ∃ p, make mapped 96 = .ok p ∧ parse p.print = .ok p ∧
      parse p.cidr = .ok p ∧ ofJson? p.toJson = some p) ∧
    Address.read? "FE80:0::0:01".toList = some linkLocal ∧
      parse "FE80:0::0:01".toList = .ok (host linkLocal) ∧
      parse ("FE80:0::0:01".toList ++ '/' :: Text.ofNat linkLocal.family.bits) =
        .ok (host linkLocal) := by
  intro mapped linkLocal
  have hread : Address.read? "FE80:0::0:01".toList = some linkLocal := by decide
  exact ⟨⟨by decide, forms_read_back.1 mapped 96 (by decide)⟩,
    hread, forms_read_back.2.2.2 _ linkLocal hread⟩

/-! ## Ways to a prefix -/

/-- The prefix was made of its parts, as a host or as a default route, or it was read from a
text. -/
inductive Checked : Prefix → Prop
  | made {address : Address} {length : Nat} {p : Prefix} (h : make address length = .ok p) :
      Checked p
  | host (address : Address) : Checked (host address)
  | defaultRoute (family : Family) : Checked (defaultRoute family)
  | parsed {s : Text} {p : Prefix} (h : parse s = .ok p) : Checked p

/-- These ways lead to the prefixes whose family allows their length, and to all of them. -/
theorem checked_iff {p : Prefix} : Checked p ↔ p.Fits := by
  constructor
  · intro h
    cases h with
    | made h => exact (make_eq_ok.1 h).2
    | host address => exact Nat.le_refl _
    | defaultRoute family => exact Nat.zero_le _
    | parsed h => exact fits_of_parse h
  · exact fun h => .made (make_eq_ok.2 ⟨rfl, h⟩)

/-- A host is a prefix that has as many bits as any of its family. -/
theorem isHost_iff {p : Prefix} (h : p.Fits) :
    p.isHost = true ↔ ∀ q : Prefix, q.Fits → q.family = p.family → q.length ≤ p.length := by
  have hhost : p.isHost = true ↔ p.length = p.family.bits := by simp [isHost]
  rw [hhost]
  constructor
  · intro hlength q hq hfamily
    rw [hlength, ← hfamily]
    exact hq
  · intro hlongest
    exact Nat.le_antisymm h (hlongest (Prefix.host p.address) (Nat.le_refl _) rfl)

/-- The text of a prefix that is too long for its family is refused. -/
theorem parse_print_of_not_fits {p : Prefix} (h : ¬ p.Fits) (hle : p.length ≤ 255) :
    p.isHost = false ∧ parse p.print = .error (.tooLong p.length p.family.bits) := by
  have hhost : p.isHost = false := by
    rw [isHost, beq_eq_false_iff_ne]
    exact fun heq => h (Nat.le_of_eq heq)
  have hprint : p.print = p.cidr := by rw [print, hhost]; rfl
  refine ⟨hhost, ?_⟩
  rw [hprint, cidr, parse_slash (Address.read?_print p.address) hle]
  exact if_neg h

/-- **Every prefix is within its family's bits, unless it comes from a record.** The other ways lead
to such prefixes only, a record to every prefix with a length of one byte. Within the bits of their
family the hosts are exactly the longest prefixes and the written form reads back; a prefix from a
record that is beyond them is no host, and its text is refused. -/
theorem fits_unless_record (p : Prefix) :
    (Checked p ↔ p.Fits) ∧
    ((∃ value, ofJson? value = some p) ↔ p.length ≤ 255) ∧
    (parse p.print = .ok p ↔ p.Fits) ∧
    (p.Fits → (p.isHost = true ↔
      ∀ q : Prefix, q.Fits → q.family = p.family → q.length ≤ p.length)) ∧
    ∀ value, ofJson? value = some p → ¬ p.Fits →
      p.isHost = false ∧ parse p.print = .error (.tooLong p.length p.family.bits) := by
  refine ⟨checked_iff, ⟨?_, fun hle => ⟨p.toJson, ofJson?_toJson hle⟩⟩,
    ⟨fits_of_parse, fun h => parse_eq_ok.2 (read?_print h)⟩, isHost_iff, ?_⟩
  · rintro ⟨value, hvalue⟩
    exact length_le_of_ofJson? hvalue
  · intro value hvalue hfits
    exact parse_print_of_not_fits hfits (length_le_of_ofJson? hvalue)

/-- The record of an IPv4 network with one bit too many. -/
def overlongRecord : Json :=
  .object [(addressKey, .string "10.0.0.0".toList), (lengthKey, .number (.natural 33))]

/-- A record with one bit too many is read, and the text of what it is read as is refused. -/
theorem fits_unless_record_overlong :
    let p : Prefix := ⟨.v4 10 0 0 0, 33⟩
    (ofJson? overlongRecord = some p ∧ ¬ p.Fits) ∧
      p.isHost = false ∧ parse p.print = .error (.tooLong 33 32) := by
  intro p
  have hvalue : ofJson? overlongRecord = some p := by decide
  have hfits : ¬ p.Fits := by decide
  exact ⟨⟨hvalue, hfits⟩, (fits_unless_record p).2.2.2.2 overlongRecord hvalue hfits⟩

/-- Not every record that is read is a prefix within its family's bits. -/
theorem overlongRecord_not_fits :
    ¬ ∀ (value : Json) (p : Prefix), ofJson? value = some p → p.Fits := by
  intro hall
  have hvalue : ofJson? overlongRecord = some ⟨.v4 10 0 0 0, 33⟩ := by decide
  exact absurd (hall overlongRecord _ hvalue) (by decide)

end RouteWatch.Prefix
