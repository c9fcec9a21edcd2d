/-
Blanks at the end of a line are no part of a dump: whatever tabs and carriage
returns a terminal has left there, the same route is extracted. Displays and
kernel dumps are read through cuts that pass such blanks on, down to a field
that is trimmed or a keyword that ends before them; the entries of the database
are trimmed line by line. In a running configuration every line must keep its
mark.
-/
import RouteWatch.Proofs.Dump.Alike
import RouteWatch.Proofs.Dump.RunningConfig.Boundary
import RouteWatch.Proofs.Text.Trailing

namespace RouteWatch

open Text (Trails Passes Steady)

/-! ## Displays -/

namespace Display

theorem isIdChar_of_isBlank {c : Char} (h : Text.isBlank c = true) : isIdChar c = false := by
  simp [isIdChar, h]

theorem passes_spanDigits? : Passes spanDigits? := by
  intro s t hst
  obtain ⟨hdigits, hrest⟩ := hst.span fun _ => Text.isDecimalDigit_of_isBlank
  simp only [spanDigits?, hdigits]
  split
  · exact .none
  · exact .some ⟨rfl, hrest⟩

theorem passes_spanPrefix? : Passes spanPrefix? := by
  intro s t hst
  obtain ⟨haddress, hrest⟩ := hst.span fun _ => not_isAddressChar_of_isBlank
  simp only [spanPrefix?, haddress]
  split
  · exact .none
  · revert hrest
    generalize (Text.span isAddressChar s).1 = address
    generalize (Text.span isAddressChar s).2 = rest
    generalize (Text.span isAddressChar t).2 = rest'
    intro hrest
    cases hrest with
    | padding h =>
      split
      · rename_i heq
        cases heq
      · split
        · exact absurd (Text.isPadding_cons.1 h).1.1 (by decide)
        · exact .some ⟨rfl, .padding h⟩
    | @cons c rest rest' h =>
      by_cases hc : c = '/'
      · subst hc
        obtain ⟨hdigits, htail⟩ := h.span fun _ => Text.isDecimalDigit_of_isBlank
        simp only [hdigits]
        split
        · exact .some ⟨rfl, htail⟩
        · exact .none
      · split
        · rename_i heq
          exact absurd (List.cons.inj heq).1 hc
        · split
          · rename_i heq
            exact absurd (List.cons.inj heq).1 hc
          · exact .some ⟨rfl, .cons c h⟩

theorem steady_wordEndsAt : Steady Text.wordEndsAt := by
  intro s t hst
  cases hst with
  | @padding t h =>
    cases t with
    | nil => rfl
    | cons c t => simp [Text.wordEndsAt, Text.isWordChar_of_isBlank (Text.isPadding_cons.1 h).1.1]
  | cons => rfl

theorem steady_countClause? : Steady countClause? := by
  have hend : ∀ count : Text, Steady fun s => if Text.wordEndsAt s then some count else none :=
    fun count => steady_wordEndsAt.comp fun ends => if ends then some count else none
  have hnoun := fun count => ((hend count).option ['s'] (by decide)).after? "next-hop".toList
    (by decide)
  have hkind := fun count => ((hnoun count).afterBlanks? rfl).after? "unicast".toList (by decide)
  have hcount := Steady.cut (fun count => (hkind count).afterBlanks? rfl) passes_spanDigits?
  exact hcount.afterBlanks? rfl

theorem steady_ribHeader? : Steady ribHeader? := by
  have hcount : ∀ target : Text, Steady fun s => (countClause? s).bind fun count =>
      (Prefix.read? target).bind fun target =>
        some (⟨target, Text.toCount? Text.wordMax count⟩ : Header) := fun target =>
    steady_countClause?.comp (·.bind _)
  exact Steady.cut (fun target => (hcount target).after? [','] (by decide)) passes_spanPrefix?

theorem steady_header? (kind : Kind) : Steady (grammar kind).header? := by
  cases kind with
  | rib => exact steady_ribHeader?
  | fib =>
    intro s t hst
    show fibHeader? t = fibHeader? s
    rw [fibHeader?, fibHeader?, hst.trimEnd_eq]

theorem trails_getLast? {pieces pieces' : List Text} (h : List.Forall₂ Trails pieces pieces')
    {a b : Text} (hab : Trails a b) :
    Trails (pieces.getLast?.getD a) (pieces'.getLast?.getD b) := by
  induction h generalizing a b with
  | nil => exact hab
  | cons hpiece _ ih => simpa only [List.getLast?_cons, Option.getD_some] using ih hpiece

/-- The blanks behind a line are behind its last field, and there the protocol is trimmed. -/
theorem steady_protocol : Steady fun s => Protocol.read (lastField s) := by
  intro s t hst
  have hcomma : ∀ c, Text.isBlank c = true → (c == ',') = false := fun c hc =>
    beq_eq_false_iff_ne.2 (Text.ne_of_isBlank hc (by decide)).symm
  have hlast : Trails (lastField s) (lastField t) :=
    trails_getLast? (hst.splitBy hcomma) (.refl [])
  show Protocol.read (lastField t) = Protocol.read (lastField s)
  rw [Protocol.read, Protocol.read, hlast.trim_eq]

theorem steady_nextHop? : Steady nextHop? := by
  have htail : ∀ id distance metric : Text, Steady fun tail : Text =>
      if tail.contains '\n' then none
      else some (id, NextHop.make distance metric (Protocol.read (lastField tail))) := by
    intro id distance metric s t hst
    simp only [hst.contains_feed_eq, steady_protocol hst]
  have hmetric := fun id distance => Steady.cut
    (fun metric => (htail id distance metric).after? [']'] (by decide)) passes_spanDigits?
  have hdistance := fun id => Steady.cut
    (fun distance => (hmetric id distance).after? ['/'] (by decide)) passes_spanDigits?
  have hopening := fun id =>
    ((hdistance id).after? ['['] (by decide)).trimStart.after? [','] (by decide)
  have hid := Steady.span (fun id => Steady.ite (id.isEmpty = true) (.const none) (hopening id))
    fun _ => isIdChar_of_isBlank
  have hvia := (hid.afterBlanks? rfl).after? "via".toList (by decide)
  have hline := (hvia.trimStart.option ['*'] (by decide)).trimStart
  -- The attributes are made of the fields at the end, and not while the line is read.
  show Steady fun line => nextHop? line
  simpa only [nextHop?, hopFields?, afterMarker, Option.bind_eq_bind, Option.map_bind,
    Function.comp_def, apply_ite (Option.map _), Option.map_none, Option.map_some] using hline

/-- Lines with and without blanks behind them are alike in a display. -/
theorem alike_of_trails (kind : Kind) {line line' : Text} (h : Trails line line') :
    (grammar kind).Alike nextHop? line line' where
  header := steady_header? kind h
  same := steady_nextHop? h
  hop := .inl (by rw [isNextHop_eq, isNextHop_eq, steady_nextHop? h])

/-- **Blanks behind the lines of a display change no route.** -/
theorem extract_trails (kind : Kind) {lines lines' : List Text}
    (h : List.Forall₂ Trails lines lines') (query : Query) :
    extract kind lines' query = extract kind lines query :=
  extract_alike (h.imp fun _ _ => alike_of_trails kind) query

end Display

/-! ## Kernel dumps -/

namespace Kernel

theorem steady_header? (family : Family) : Steady (header? family) := by
  intro s t hst
  by_cases hs : s = []
  · subst hs
    have hnil : header? family [] = none := rfl
    cases hst with
    | @padding t h =>
      cases t with
      | nil => rfl
      | cons c t =>
        have hblank : Text.startsBlank (c :: t) = true := (Text.isPadding_cons.1 h).1.1
        rw [hnil, header?, hblank]
        rfl
  · rw [header?, header?, hst.startsBlank_eq hs, hst.words_eq]

theorem steady_afterKeyword? {read : Text → Option α} (h : Steady read) (hnil : read [] = none)
    (keyword : Text) (hkeyword : Text.IsWord keyword) :
    Steady fun s => (afterKeyword? keyword s).bind read := by
  simpa only [afterKeyword?, Option.bind_assoc] using
    (h.afterBlanks? hnil).after? keyword hkeyword

/-- The address at the beginning of a text. -/
def address? (s : Text) : Option Text :=
  let address := s.takeWhile Display.isAddressChar
  if address.isEmpty then none else some address

theorem steady_address? : Steady address? := by
  have hrun : Steady fun s : Text => s.takeWhile Display.isAddressChar := fun _ _ hst =>
    (hst.span fun _ => Display.not_isAddressChar_of_isBlank).1
  exact hrun.comp fun address => if address.isEmpty then none else some address

/-- The word `inet` is no address itself. -/
theorem address?_skipInet (s : Text) :
    address? (skipInet s) = match Text.after? "inet".toList s with
      | some rest => (Text.afterBlanks? ((Text.after? ['6'] rest).getD rest)).bind address?
      | none => address? s := by
  cases hinet : Text.after? "inet".toList s with
  | none => rw [skipInet, hinet]
  | some rest =>
    simp only [skipInet, hinet]
    cases Text.afterBlanks? ((Text.after? ['6'] rest).getD rest) with
    | some gateway => rfl
    | none =>
      obtain rfl := Text.after?_eq_some.1 hinet
      rfl

theorem steady_viaHere? : Steady viaHere? := by
  have hgateway : Steady fun s => address? (skipInet s) := by
    intro s t hst
    have hrel : Option.Rel Trails (Text.after? "inet".toList s) (Text.after? "inet".toList t) :=
      hst.after? (Text.IsWord.no_blank (by decide))
    show address? (skipInet t) = address? (skipInet s)
    rw [address?_skipInet, address?_skipInet]
    generalize Text.after? "inet".toList s = x at hrel ⊢
    generalize Text.after? "inet".toList t = y at hrel ⊢
    cases hrel with
    | some hrest => exact (steady_address?.afterBlanks? rfl).option ['6'] (by decide) hrest
    | none => exact steady_address? hst
  exact steady_afterKeyword? hgateway rfl "via".toList (by decide)

theorem steady_deviceHere? : Steady deviceHere? := by
  have hdevice : Steady fun s : Text => s.takeWhile (!Text.isBlank ·) := fun _ _ hst =>
    (hst.span (p := (!Text.isBlank ·)) fun c hc => by simp [hc]).1
  have hname := hdevice.comp fun device : Text => if device.isEmpty then none else some device
  exact steady_afterKeyword? hname rfl "dev".toList (by decide)

theorem steady_search? {here? : Text → Option Text} (h : Steady here?) (hnil : here? [] = none)
    (before : Option Char) : Steady (search? here? before) := by
  intro s t hst
  induction hst generalizing before with
  | @padding t hpad =>
    refine search?_eq_none (fun v hv => ?_) before
    exact (h (.padding fun c hc => hpad c (hv.subset hc))).trans hnil
  | @cons c s t hst ih => rw [search?, search?, h (.cons c hst), ih]

theorem steady_nextHop? : Steady nextHop? := by
  intro s t hst
  rw [nextHop?, nextHop?, steady_search? steady_viaHere? rfl none hst,
    steady_search? steady_deviceHere? rfl none hst]

/-- A blank behind the bare word `nexthop` makes a next-hop line of it, which names none. -/
theorem isNextHopLine_eq {line line' : Text} (h : Trails line line') :
    isNextHopLine line' = isNextHopLine line ∨ nextHop? line = none := by
  by_cases hnil : line = []
  · exact .inr (hnil ▸ rfl)
  by_cases hword : Text.trimStart line = "nexthop".toList
  · have hv : 'v' ∉ line := by
      intro hmem
      have hkept : 'v' ∈ Text.trimStart line := Text.mem_trimStart (by decide) hmem
      rw [hword] at hkept
      exact absurd hkept (by decide)
    exact .inr (nextHop?_eq_none hv)
  · have hrel : Option.Rel Trails (Text.after? "nexthop ".toList (Text.trimStart line))
        (Text.after? "nexthop ".toList (Text.trimStart line')) :=
      h.trimStart.after?_concat (by decide) hword
    rw [isNextHopLine, isNextHopLine, h.startsBlank_eq hnil, Text.isSome_eq_of_rel hrel]
    exact .inl rfl

theorem alike_of_trails (family : Family) {line line' : Text} (h : Trails line line') :
    (grammar family).Alike nextHop? line line' where
  header := steady_header? family h
  same := steady_nextHop? h
  hop := isNextHopLine_eq h

/-- **Blanks behind the lines of a kernel dump change no route.** -/
theorem extract_trails {lines lines' : List Text} (h : List.Forall₂ Trails lines lines')
    (query : Query) : extract lines' query = extract lines query :=
  extract_alike (h.imp fun _ _ => alike_of_trails query.target.family)

end Kernel

/-! ## Entries of the database -/

namespace DatabaseEntry

/-- **Blanks behind the lines of an entry change no route.** -/
theorem extract_trails {lines lines' : List Text} (h : List.Forall₂ Trails lines lines')
    (query : Query) : extract lines' query = extract lines query := by
  have htrim : lines'.map Text.trim = lines.map Text.trim := by
    induction h with
    | nil => rfl
    | cons hline _ ih => rw [List.map_cons, List.map_cons, hline.trim_eq, ih]
  have hfields : fields lines' = fields lines := by rw [fields, fields, htrim]
  rw [extract, extract, hfields]

end DatabaseEntry

/-! ## Every format -/

namespace Format

theorem extractLines_trails {format : Format} {lines lines' : List Text}
    (h : List.Forall₂ Trails lines lines')
    (hmarks : format = .runningConfig → List.Forall₂ RunningConfig.KeepsMark lines lines')
    (query : Query) : format.extractLines lines' query = format.extractLines lines query := by
  cases format with
  | rib => exact Display.extract_trails .rib h query
  | fib => exact Display.extract_trails .fib h query
  | kernel => exact Kernel.extract_trails h query
  | runningConfig => exact RunningConfig.extract_trails h (hmarks rfl) query
  | applDb => exact DatabaseEntry.extract_trails h query

/-- **Blanks at the ends of the lines of a dump change no route**, in any format and for any query,
as long as the lines of a running configuration keep their marks. There the condition is needed of
every line: it is kept exactly by the blanks that may stand behind the line in every dump. -/
theorem extract_padded {format : Format} {text text' : Text} (h : Text.Padded text text')
    (hmarks : format = .runningConfig →
      List.Forall₂ RunningConfig.KeepsMark (Text.lines text) (Text.lines text')) :
    (∀ query, format.extract text' query = format.extract text query) ∧
    ∀ line line', Trails line line' → (RunningConfig.KeepsMark line line' ↔
      ∀ above below query, RunningConfig.extract (above ++ line' :: below) query =
        RunningConfig.extract (above ++ line :: below) query) :=
  ⟨extractLines_trails h.lines hmarks, fun _ _ => RunningConfig.keepsMark_iff⟩

/-- A configuration in which a mark closes a VRF, and what a terminal may have made of it. -/
theorem extract_padded_mark :
    let text : Text := "vrf blue".toList ++ '\n' :: '!' :: '\n' :: RunningConfig.gatewayLine
    let text' : Text := "vrf blue".toList ++ (" \r\r".toList ++ '\n' :: '!' ::
      ("\r".toList ++ '\n' :: RunningConfig.gatewayLine))
    Text.Padded text text' ∧
      List.Forall₂ RunningConfig.KeepsMark (Text.lines text) (Text.lines text') ∧
      ∀ query, runningConfig.extract text' query = runningConfig.extract text query := by
  intro text text'
  have hclosed : Text.Padded ('\n' :: RunningConfig.gatewayLine)
      ("\r".toList ++ '\n' :: RunningConfig.gatewayLine) := .feed _ (by decide) (.refl _)
  have hopened : Text.Padded ('\n' :: '!' :: '\n' :: RunningConfig.gatewayLine)
      (" \r\r".toList ++ '\n' :: '!' :: ("\r".toList ++ '\n' :: RunningConfig.gatewayLine)) :=
    .feed _ (by decide) (.keep '!' hclosed)
  have hpadded : Text.Padded text text' := hopened.append _
  have hmarks : List.Forall₂ RunningConfig.KeepsMark (Text.lines text) (Text.lines text') :=
    .cons ⟨by decide, by decide⟩ (.cons ⟨by decide, by decide⟩ (.cons ⟨by decide, by decide⟩ .nil))
  exact ⟨hpadded, hmarks, (extract_padded hpadded fun _ => hmarks).1⟩

/-- A blank behind the mark leaves the VRF open, and the route below it is lost. -/
theorem runningConfig_not_padded :
    ¬ ∀ (format : Format) (text text' : Text) (query : Query), Text.Padded text text' →
      format.extract text' query = format.extract text query := by
  intro hall
  have hmark : Text.Padded ("vrf blue\n!".toList ++ '\n' :: RunningConfig.gatewayLine)
      ("vrf blue\n!".toList ++ ([' '] ++ '\n' :: RunningConfig.gatewayLine)) :=
    (Text.Padded.feed [' '] (by decide) (.refl _)).append _
  have heq := hall .runningConfig _ _ ⟨RunningConfig.gatewayRoute, none, none⟩ hmark
  exact absurd heq (by decide +kernel)

end Format
end RouteWatch
