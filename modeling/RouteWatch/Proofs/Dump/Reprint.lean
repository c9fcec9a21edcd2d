/-
Printing what was extracted from a dump and extracting again changes nothing,
however broken the text of the dump. Whatever a line of a display is read as
can be shown by a display, with both numbers there and no character that ends
a field in the wrong place; whatever a line of the kernel names is one word,
and it does not matter whether it stood behind `via` or behind `dev`, as the
printer tells by its look and either is read back.
-/
import RouteWatch.Proofs.Dump.Display
import RouteWatch.Proofs.Dump.Kernel

namespace RouteWatch

/-! ## Displays -/

namespace Display

variable {kind : Kind} {lines : List Text} {query : Query} {route : Route}

/-- **What is extracted from any display can be shown**, as it is and whole. -/
theorem legible_of_extract (h : extract kind lines query = some route) :
    Legible route ∧ shown route = route := by
  obtain ⟨block, hblock, htarget, rfl⟩ := exists_block_of_extract h
  have hhop : ∀ id hop, ((routeOf block).keep? query.protocol).get? id = some hop →
      LegibleHop id hop ∧ hop.zeroFilled = hop := by
    intro id hop hget
    obtain ⟨line, -, hline⟩ := exists_line_of_routeOf (Route.get?_keep?.1 hget).1
    exact legibleHop_of_nextHop? hline
  obtain ⟨i, line, header, -, hheader, rfl⟩ := Grammar.mem_blocks.1 hblock
  refine ⟨⟨?_, fun hop hmem => (hhop hop.1 hop.2 (Route.get?_eq_some.2 hmem)).1⟩,
    shown_eq fun id hop hget => (hhop id hop hget).2⟩
  rw [Route.target_keep?, target_routeOf]
  exact fits_of_header? hheader

/-- **A display of what was extracted is read as the same route.** -/
theorem extract_print_of_extract (kind : Kind) {text : Text}
    (h : kind.format.extract text query = some route) :
    kind.format.extract (print kind [route]) query = some route := by
  have hextract : extract kind (Text.lines text) query = some route := by
    cases kind <;> exact h
  obtain ⟨hlegible, hshown⟩ := legible_of_extract hextract
  obtain ⟨block, -, htarget, hroute⟩ := exists_block_of_extract hextract
  have hfound : (route.target == query.target) = true := by
    rw [hroute, Route.target_keep?, target_routeOf, htarget, beq_self_eq_true]
  have hkept : route.keep? query.protocol = route := by
    rw [hroute, Route.keep?_keep?]
  have hfind : [route].find? (·.target == query.target) = some route := by simp [hfound]
  rw [extract_legible kind (List.forall_mem_singleton.2 hlegible), hfind, Option.map_some, hshown,
    hkept]

end Display

/-! ## Kernel dumps -/

namespace Kernel

variable {lines : List Text} {query : Query} {route : Route}

/-- **What is extracted from any kernel dump can be printed.** -/
theorem printable_of_extract (h : extract lines query = some route) : Printable route := by
  have hfits := fits_of_extract h
  obtain ⟨blocks, -, -, rfl⟩ := exists_blocks_of_extract h
  constructor
  · rw [Route.target_insertAll]
    exact hfits
  · intro id hid
    rw [Keyed.mem_keys] at hid
    obtain ⟨hop, hhop⟩ := Option.isSome_iff_exists.1 hid
    have hmem := (Option.ite_none_right_eq_some.1
      ((Route.get?_insertAll_pair _ _ _ id).symm.trans hhop)).1
    obtain ⟨block, -, hmem⟩ := List.mem_flatMap.1 hmem
    obtain ⟨line, -, hline⟩ := List.mem_filterMap.1 hmem
    exact isWord_of_nextHop? hline

/-- **A kernel dump of what was extracted is read as the same route.** -/
theorem extract_print_of_extract {text : Text}
    (h : Format.kernel.extract text query = some route) :
    Format.kernel.extract (print [route]) query = some route := by
  have hextract : extract (Text.lines text) query = some route := h
  obtain ⟨blocks, -, -, hroute⟩ := exists_blocks_of_extract hextract
  have htarget : route.target = query.target := by rw [hroute, Route.target_insertAll]; rfl
  have hplain : ∀ id hop, route.get? id = some hop →
      hop = NextHop.plain (query.protocol.getD .kernel) := by
    intro id hop hget
    rw [hroute, Route.get?_insertAll_pair, Option.ite_none_right_eq_some] at hget
    exact (Option.some.inj hget.2).symm
  rw [extract_print_singleton (printable_of_extract hextract) htarget, ← htarget,
    Route.insertAll_keys hplain]

end Kernel

/-- **Extracting is idempotent.** Whatever the text of a display or of a kernel dump and whatever
is asked for, if a route is extracted, then printing this route alone in the same format and
extracting again with the same query gives the same route. -/
theorem Format.extract_reprinted (text : Text) (query : Query) (route : Route) :
    (rib.extract text query = some route →
      rib.extract (Display.print .rib [route]) query = some route) ∧
    (fib.extract text query = some route →
      fib.extract (Display.print .fib [route]) query = some route) ∧
    (kernel.extract text query = some route →
      kernel.extract (Kernel.print [route]) query = some route) :=
  ⟨Display.extract_print_of_extract .rib, Display.extract_print_of_extract .fib,
    Kernel.extract_print_of_extract⟩

/-- A gateway that is no address and a device that looks like one trade their places in print, and
in a display a number of another script and a tag with a bracket and a carriage return stay as they
were read. -/
theorem Format.extract_reprinted_oddDumps :
    let query : Query := ⟨Route.empty ⟨.v4 10 0 0 0, 24⟩, none, none⟩
    let overGateways := (Route.empty ⟨.v4 10 0 0 0, 24⟩).insertAll
      [("beef".toList, .plain .kernel), ("10.1.1.1".toList, .plain .kernel)]
    let overDevice := (Route.empty ⟨.v4 10 0 0 0, 24⟩).insert "eth0".toList
      ⟨some "٤".toList, some ['0'], .other "a]\rb".toList⟩
    (kernel.extract "10.0.0.0/24 via beef dev eth0\n\tnexthop dev 10.1.1.1".toList query =
        some overGateways ∧
      kernel.extract (Kernel.print [overGateways]) query = some overGateways) ∧
    fib.extract "10.0.0.0/24\nvia eth0,[٤/0] A]\rb\r".toList query = some overDevice ∧
      fib.extract (Display.print .fib [overDevice]) query = some overDevice := by
  intro query overGateways overDevice
  have hkernel : kernel.extract "10.0.0.0/24 via beef dev eth0\n\tnexthop dev 10.1.1.1".toList
      query = some overGateways := by decide +kernel
  have hfib : fib.extract "10.0.0.0/24\nvia eth0,[٤/0] A]\rb\r".toList query =
      some overDevice := by decide +kernel
  exact ⟨⟨hkernel, (extract_reprinted _ query overGateways).2.2 hkernel⟩,
    hfib, (extract_reprinted _ query overDevice).2.1 hfib⟩

end RouteWatch
