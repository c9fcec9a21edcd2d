/-
The fields of an entry, read back from the lines that print them. Blank lines
do not count, so a value that is empty takes its line away and whatever comes
behind it is paired one line off: an entry is read back exactly when it has
no empty value.
-/
import RouteWatch.Dump.DatabaseEntry
import RouteWatch.Proofs.Keyed
import RouteWatch.Proofs.Text.Lines

namespace RouteWatch.DatabaseEntry

/-- The lines of an entry: each name and each value on its own. -/
def fieldLines (entry : List (Text × Text)) : List Text :=
  entry.flatMap fun field => [field.1, field.2]

/-- What is printed of an entry. -/
def reply (entry : List (Text × Text)) : Text := Text.joinWith ['\n'] (fieldLines entry)

/-- The names are distinct and not empty, and no name or value has a line feed in it or a blank at
one of its ends. A value may be empty. -/
structure WellFormed (entry : List (Text × Text)) : Prop where
  nodup : (entry.map (·.1)).Nodup
  named : ∀ field ∈ entry, field.1 ≠ []
  trimmed : ∀ line ∈ fieldLines entry, Text.Trimmed line
  no_feed : ∀ line ∈ fieldLines entry, '\n' ∉ line

theorem fieldLines_cons (name value : Text) (entry : List (Text × Text)) :
    fieldLines ((name, value) :: entry) = name :: value :: fieldLines entry := rfl

theorem length_fieldLines (entry : List (Text × Text)) :
    (fieldLines entry).length = 2 * entry.length := by
  induction entry with
  | nil => rfl
  | cons field entry ih =>
    rw [fieldLines_cons, List.length_cons, List.length_cons, List.length_cons, ih]
    omega

/-- **Pairing undoes listing.** -/
theorem pairs_fieldLines (entry : List (Text × Text)) : pairs (fieldLines entry) = entry := by
  induction entry with
  | nil => rfl
  | cons field entry ih => rw [fieldLines_cons, pairs, ih]

/-- The lines that are not blank are the names and the values of the entry in turn, with whatever
blanks around them. -/
def Replies (lines : List Text) (entry : List (Text × Text)) : Prop :=
  (lines.map Text.trim).filter (!·.isEmpty) = fieldLines entry

theorem Replies.fields_eq {lines : List Text} {entry : List (Text × Text)}
    (h : Replies lines entry) : fields lines = Keyed.ofList entry := by
  rw [fields, h, pairs_fieldLines]

theorem length_pairs_le : ∀ lines : List Text, 2 * (pairs lines).length ≤ lines.length
  | [] => by simp [pairs]
  | [_] => by simp [pairs]
  | name :: value :: rest => by
    have := length_pairs_le rest
    simp only [pairs, List.length_cons]
    omega

theorem filter_map_trim (lines : List Text) :
    (lines.map Text.trim).filter (!·.isEmpty) =
      ((lines.filter (!·.isEmpty)).map Text.trim).filter (!·.isEmpty) := by
  induction lines with
  | nil => rfl
  | cons line lines ih =>
    cases line with
    | nil => exact ih
    | cons c s =>
      have hkept : ((c :: s) :: lines).filter (!·.isEmpty) =
          (c :: s) :: lines.filter (!·.isEmpty) := rfl
      rw [hkept, List.map_cons, List.map_cons, List.filter_cons, List.filter_cons, ih]

section

variable {entry : List (Text × Text)} (h : WellFormed entry) {ending : Text}
  (hending : ending = [] ∨ ending = ['\n'])
include h hending

/-- The lines that count are those of the entry which are not empty. -/
theorem filter_lines_reply :
    ((Text.lines (reply entry ++ ending)).map Text.trim).filter (!·.isEmpty) =
      (fieldLines entry).filter (!·.isEmpty) := by
  have hlines : ∀ line ∈ fieldLines entry, Text.IsLine line := fun line hline =>
    (h.trimmed line hline).isLine (h.no_feed line hline)
  have htrim : ((fieldLines entry).filter (!·.isEmpty)).map Text.trim =
      (fieldLines entry).filter (!·.isEmpty) :=
    Text.map_trim fun line hline => h.trimmed line (List.mem_filter.1 hline).1
  rw [filter_map_trim, reply, Text.filter_lines_joinWith hlines hending, htrim,
    List.filter_filter]
  simp

/-- What is read are the fields that the lines pair up which are not empty. -/
theorem fields_reply : fields (Text.lines (reply entry ++ ending)) =
    Keyed.ofList (pairs ((fieldLines entry).filter (!·.isEmpty))) := by
  rw [fields, filter_lines_reply h hending]

/-- Without an empty value no line is lost. -/
theorem replies_reply (hvalues : ∀ field ∈ entry, field.2 ≠ []) :
    Replies (Text.lines (reply entry ++ ending)) entry := by
  rw [Replies, filter_lines_reply h hending, List.filter_eq_self]
  intro line hline
  obtain ⟨field, hfield, hmem⟩ := List.mem_flatMap.1 hline
  rw [List.mem_cons, List.mem_singleton] at hmem
  rcases hmem with rfl | rfl
  · simpa using h.named field hfield
  · simpa using hvalues field hfield

theorem get?_fields_reply (hvalues : ∀ field ∈ entry, field.2 ≠ []) (name : Text) :
    (fields (Text.lines (reply entry ++ ending))).get? name = valueOf? name entry := by
  rw [(replies_reply h hending hvalues).fields_eq, Keyed.get?_ofList h.nodup]

/-- With an empty value there are too few lines for all the fields. -/
theorem size_fields_reply_lt {field : Text × Text} (hmem : field ∈ entry) (hempty : field.2 = []) :
    (fields (Text.lines (reply entry ++ ending))).size < entry.length := by
  have hlost : ((fieldLines entry).filter (!·.isEmpty)).length < (fieldLines entry).length := by
    refine List.length_filter_lt_length_iff_exists.2 ⟨field.2, ?_, by simp [hempty]⟩
    exact List.mem_flatMap.2 ⟨field, hmem, by simp⟩
  have hpairs := length_pairs_le ((fieldLines entry).filter (!·.isEmpty))
  have hsize := Keyed.size_ofList_le (pairs ((fieldLines entry).filter (!·.isEmpty)))
  rw [fields_reply h hending]
  rw [length_fieldLines] at hlost
  omega

/-- **An entry is read back exactly when none of its values is empty**, whether or not a line feed
ends the last line: then the fields are those listed, each with its value, and no others. -/
theorem fields_reply_iff :
    (∀ name value, (fields (Text.lines (reply entry ++ ending))).get? name = some value ↔
      (name, value) ∈ entry) ↔ ∀ field ∈ entry, field.2 ≠ [] := by
  constructor
  · intro hall field hmem hempty
    -- All names would be keys, and there are fewer keys than names.
    have hsubset : entry.map (·.1) ⊆ (fields (Text.lines (reply entry ++ ending))).keys := by
      intro name hname
      obtain ⟨⟨name, value⟩, hfield, rfl⟩ := List.mem_map.1 hname
      rw [Keyed.mem_keys, (hall name value).2 hfield]
      rfl
    have hle := h.nodup.length_le_of_subset hsubset
    rw [List.length_map, Keyed.length_keys] at hle
    exact absurd (size_fields_reply_lt h hending hmem hempty) (Nat.not_lt.2 hle)
  · intro hvalues name value
    rw [get?_fields_reply h hending hvalues, valueOf?_eq_some h.nodup]

end

/-- The entry of a route over one interface, by what stands for its gateway. -/
def interfaceEntry (gateway : Text) : List (Text × Text) :=
  [(gatewaysField, gateway), (interfacesField, "Ethernet0".toList),
    (protocolField, "static".toList)]

/-- The address of zeros is a gateway that is read back. -/
theorem fields_reply_iff_interfaceEntry :
    WellFormed (interfaceEntry "0.0.0.0".toList) ∧ (['\n'] = [] ∨ ['\n'] = ['\n']) ∧
      ∀ name value, (fields (Text.lines (reply (interfaceEntry "0.0.0.0".toList) ++ ['\n']))).get?
        name = some value ↔ (name, value) ∈ interfaceEntry "0.0.0.0".toList := by
  have h : WellFormed (interfaceEntry "0.0.0.0".toList) :=
    ⟨by decide, by decide, by decide, by decide⟩
  exact ⟨h, .inr rfl, (fields_reply_iff h (.inr rfl)).2 (by decide)⟩

/-- An empty gateway is not: the name behind it is read as its value, and the route goes over that
name in place of the interface. -/
theorem interfaceEntry_not_read_back :
    (¬ ∀ entry, WellFormed entry → ∀ name value,
      (fields (Text.lines (reply entry))).get? name = some value ↔ (name, value) ∈ entry) ∧
    ∀ target, extract (Text.lines (reply (interfaceEntry []))) ⟨Route.empty target, none, none⟩ =
      some ((Route.empty target).insert interfacesField (.plain .kernel)) := by
  refine ⟨fun hall => ?_, fun target => by rfl⟩
  have h : WellFormed (interfaceEntry []) := ⟨by decide, by decide, by decide, by decide⟩
  have hgateway := (hall _ h gatewaysField []).2 List.mem_cons_self
  exact absurd hgateway (by decide)

end RouteWatch.DatabaseEntry
