/-
No name that a caller gives escapes from a command line. Whatever the prefix,
the VRF, the device and the user, the line for a dump is one simple command
with exactly the arguments that were meant, and so is the line that reaches
another device: its last argument is the whole first line, which the shell at
the other end reads once more.
-/
import RouteWatch.Device.Transport
import RouteWatch.Dump.Format
import RouteWatch.Proofs.Net.Prefix
import RouteWatch.Proofs.Shell.Command

namespace RouteWatch

open Shell

/-- The option by which the kernel's tool is told the family. -/
def Family.option : Family → Text
  | .v4 => "-4".toList
  | .v6 => "-6".toList

/-- The program that produces a dump on the device itself, and its arguments. -/
def Format.arguments (format : Format) (query : Query) : List Text :=
  match format, query.vrf with
  | .kernel, none =>
    ["/sbin/ip".toList, query.target.family.option, "route".toList, "show".toList]
  | .kernel, some name =>
    ["/sbin/ip".toList, query.target.family.option, "route".toList, "show".toList,
      "vrf".toList, name]
  | .applDb, none =>
    ["/usr/bin/redis-cli".toList, "-n".toList, "0".toList, "HGETALL".toList,
      "ROUTE_TABLE:".toList ++ query.target.cidr]
  | .applDb, some name =>
    ["/usr/bin/redis-cli".toList, "-n".toList, "0".toList, "HGETALL".toList,
      "ROUTE_TABLE:".toList ++ name ++ ':' :: query.target.cidr]
  | .rib, _ | .fib, _ | .runningConfig, _ =>
    ["/usr/bin/vtysh".toList, "-c".toList, format.command query]

/-- There is no line feed in a name, if one is given. -/
def NoFeed (name : Option Text) : Prop := ∀ s, name = some s → '\n' ∉ s

theorem noFeed_some {s : Text} : NoFeed (some s) ↔ '\n' ∉ s := by
  simp only [NoFeed, Option.some.injEq, forall_eq']

/-! ## The commands of the management shell -/

theorem no_feed_vrfClause {vrf : Option Text} (h : NoFeed vrf) :
    '\n' ∉ Command.vrfClause vrf := by
  cases vrf with
  | none => exact List.not_mem_nil
  | some name =>
    show '\n' ∉ " vrf ".toList ++ name
    simp [noFeed_some.1 h]

theorem no_feed_familyWord (family : Family) : '\n' ∉ Command.familyWord family := by
  cases family <;> decide

/-- What the management shell is asked holds no line feed. -/
theorem Format.no_feed_command (format : Format) (hformat : format.channel = .managementCli)
    {query : Query} (h : NoFeed query.vrf) : '\n' ∉ format.command query := by
  have hfamily := no_feed_familyWord query.target.family
  have hclause := no_feed_vrfClause h
  cases format with
  | rib =>
    show '\n' ∉ "show ".toList ++ Command.familyWord query.target.family ++ " route".toList ++
      Command.vrfClause query.vrf
    simp [hfamily, hclause]
  | fib =>
    show '\n' ∉ "show ".toList ++ Command.familyWord query.target.family ++ " fib".toList ++
      Command.vrfClause query.vrf
    simp [hfamily, hclause]
  | runningConfig =>
    show '\n' ∉ Command.showRunningConfig
    decide
  | kernel | applDb => cases hformat

/-! ## The commands that quote a name themselves -/

theorem showKernel_none (family : Family) :
    Command.showKernel family none =
      "/sbin/ip ".toList ++ family.option ++ " route show".toList ++ [] := rfl

theorem showKernel_some (family : Family) (name : Text) :
    Command.showKernel family (some name) =
      "/sbin/ip ".toList ++ family.option ++ " route show".toList ++
        (" vrf ".toList ++ quote name) := rfl

theorem databaseKey_none (target : Prefix) :
    Command.databaseKey target none = "ROUTE_TABLE:".toList ++ target.cidr := rfl

theorem databaseKey_some (target : Prefix) (name : Text) :
    Command.databaseKey target (some name) =
      "ROUTE_TABLE:".toList ++ name ++ ':' :: target.cidr := by
  show "ROUTE_TABLE:".toList ++ (name ++ [':']) ++ target.cidr = _
  simp only [List.append_assoc, List.singleton_append]

theorem readDatabase_eq (target : Prefix) (vrf : Option Text) :
    Command.readDatabase target vrf =
      "-n 0 HGETALL ".toList ++ quote (Command.databaseKey target vrf) := rfl

theorem no_feed_databaseKey (target : Prefix) {vrf : Option Text} (h : NoFeed vrf) :
    '\n' ∉ Command.databaseKey target vrf := by
  have hcidr : '\n' ∉ target.cidr := (Prefix.isWord_cidr target).not_mem (by decide)
  cases vrf with
  | none => simp [databaseKey_none, hcidr]
  | some name => simp [databaseKey_some, hcidr, noFeed_some.1 h]

/-! ## Lines on the device itself -/

theorem spells_managementCli {command : Text} (h : '\n' ∉ command) :
    Spells ("/usr/bin/vtysh".toList ++ " -c ".toList ++ quote command)
      ["/usr/bin/vtysh".toList, "-c".toList, command] := by
  have hline : "/usr/bin/vtysh".toList ++ " -c ".toList ++ quote command =
      "/usr/bin/vtysh".toList ++ moreArguments [.bare "-c".toList, .quoted command] := by
    simp [moreArguments, Argument.print]
  rw [hline]
  refine .line (by decide +kernel) (by decide) ?_
  rw [List.forall_mem_cons, List.forall_mem_singleton]
  exact ⟨by decide +kernel, h⟩

theorem isFaithful_showKernel (family : Family) :
    ∀ a ∈ [Argument.bare family.option, .bare "route".toList, .bare "show".toList,
      .bare "vrf".toList], a.IsFaithful := by
  cases family <;> decide +kernel

theorem spells_showKernel_none (family : Family) :
    Spells (Command.showKernel family none)
      ["/sbin/ip".toList, family.option, "route".toList, "show".toList] := by
  have hline : Command.showKernel family none =
      "/sbin/ip".toList ++ moreArguments [.bare family.option, .bare "route".toList,
        .bare "show".toList] := by
    rw [showKernel_none]
    simp [moreArguments, Argument.print]
  rw [hline]
  exact .line (by decide +kernel) (by decide) fun a ha =>
    isFaithful_showKernel family a (by simp only [List.mem_cons] at ha ⊢; tauto)

theorem spells_showKernel_some (family : Family) {name : Text} (h : '\n' ∉ name) :
    Spells (Command.showKernel family (some name))
      ["/sbin/ip".toList, family.option, "route".toList, "show".toList, "vrf".toList, name] := by
  have hline : Command.showKernel family (some name) =
      "/sbin/ip".toList ++ moreArguments ([.bare family.option, .bare "route".toList,
        .bare "show".toList, .bare "vrf".toList] ++ [.quoted name]) := by
    rw [showKernel_some]
    simp [moreArguments, Argument.print]
  rw [hline]
  refine .line (by decide +kernel) (by decide) ?_
  rw [List.forall_mem_append, List.forall_mem_singleton]
  exact ⟨isFaithful_showKernel family, h⟩

theorem spells_readDatabase (target : Prefix) {vrf : Option Text} (h : NoFeed vrf) :
    Spells ("/usr/bin/redis-cli".toList ++ ' ' :: Command.readDatabase target vrf)
      ["/usr/bin/redis-cli".toList, "-n".toList, "0".toList, "HGETALL".toList,
        Command.databaseKey target vrf] := by
  have hline : "/usr/bin/redis-cli".toList ++ ' ' :: Command.readDatabase target vrf =
      "/usr/bin/redis-cli".toList ++ moreArguments [.bare "-n".toList, .bare "0".toList,
        .bare "HGETALL".toList, .quoted (Command.databaseKey target vrf)] := by
    rw [readDatabase_eq]
    simp [moreArguments, Argument.print]
  rw [hline]
  refine .line (by decide +kernel) (by decide) ?_
  simp only [List.forall_mem_cons]
  exact ⟨by decide +kernel, by decide +kernel, by decide +kernel, no_feed_databaseKey target h,
    List.forall_mem_nil _⟩

/-- Whether devices are at hand or not, on the device itself the default tools run a dump's
command with its arguments. -/
theorem Format.spells_deviceLine (format : Format) {query : Query} (h : NoFeed query.vrf)
    (device : Text) (isRemote : Bool) (user : Option Text) (limit : Option Duration) :
    Spells
      (Transport.deviceLine { isRemote, user, limit }
        ⟨device, format.channel, format.command query⟩)
      (format.arguments query) := by
  obtain ⟨expected, protocol, vrf⟩ := query
  cases format with
  | rib => exact spells_managementCli (Format.no_feed_command .rib rfl h)
  | fib => exact spells_managementCli (Format.no_feed_command .fib rfl h)
  | runningConfig => exact spells_managementCli (Format.no_feed_command .runningConfig rfl h)
  | kernel =>
    cases vrf with
    | none => exact spells_showKernel_none expected.target.family
    | some name => exact spells_showKernel_some expected.target.family (noFeed_some.1 h)
  | applDb =>
    cases vrf with
    | none => exact spells_readDatabase expected.target h
    | some name =>
      have hspells := spells_readDatabase expected.target h
      rw [databaseKey_some] at hspells
      exact hspells

/-! ## Lines for another device -/

theorem Transport.no_feed_destination {transport : Transport} (huser : NoFeed transport.user)
    {device : Text} (hdevice : '\n' ∉ device) : '\n' ∉ transport.destination device := by
  rw [destination]
  split
  · rename_i user heq
    simp [huser user heq, hdevice]
  · exact hdevice

/-- A line without line feeds reaches another device as one argument. -/
theorem Transport.spells_commandLine {transport : Transport} (hremote : transport.isRemote = true)
    {call : Call} (hother : call.device ≠ Spawned.localDevice)
    (hdestination : '\n' ∉ transport.destination call.device)
    (hline : '\n' ∉ transport.deviceLine call) :
    Spells (transport.commandLine call)
      ["/usr/bin/ssh".toList, "-o".toList, "BatchMode=yes".toList,
        transport.destination call.device, transport.deviceLine call] := by
  have heq : transport.commandLine call =
      "/usr/bin/ssh".toList ++ moreArguments [.bare "-o".toList, .bare "BatchMode=yes".toList,
        .quoted (transport.destination call.device), .quoted (transport.deviceLine call)] := by
    have hdecide : (!transport.isRemote || call.device == Spawned.localDevice) = false := by
      rw [hremote, beq_eq_false_iff_ne.2 hother]
      rfl
    refine (if_neg (by rw [hdecide]; exact Bool.false_ne_true)).trans ?_
    rw [show remoteShell = "/usr/bin/ssh".toList from rfl]
    simp [moreArguments, Argument.print]
  rw [heq]
  refine .line (by decide +kernel) (by decide) ?_
  simp only [List.forall_mem_cons]
  exact ⟨by decide +kernel, by decide +kernel, hdestination, hline, List.forall_mem_nil _⟩

/-- **The line for a dump is one simple command with the arguments that were meant**, whatever the
prefix, the VRF, the device and the user are called. So is the line for another device: its last
argument is the line for the device itself, which the shell there reads in its turn. -/
theorem Format.isCall_commandLine (format : Format) (query : Query) (device : Text)
    (user : Option Text) (limit : Option Duration) (hvrf : NoFeed query.vrf) (huser : NoFeed user)
    (hdevice : '\n' ∉ device) :
    let call : Call := ⟨device, format.channel, format.command query⟩
    let inside : Transport := { user, limit }
    let outside : Transport := { isRemote := true, user, limit }
    IsCall (inside.commandLine call) (format.arguments query) ∧
      (device = Spawned.localDevice → outside.commandLine call = inside.commandLine call) ∧
      (device ≠ Spawned.localDevice →
        IsCall (outside.commandLine call)
          ["/usr/bin/ssh".toList, "-o".toList, "BatchMode=yes".toList,
            user.elim device (· ++ '@' :: device), inside.commandLine call]) := by
  intro call inside outside
  have hinside := format.spells_deviceLine hvrf device false user limit
  refine ⟨hinside.isCall, ?_, ?_⟩
  · rintro rfl
    rfl
  · intro hother
    have hdestination : '\n' ∉ outside.destination device :=
      Transport.no_feed_destination huser hdevice
    have hspells : Spells (outside.commandLine call)
        ["/usr/bin/ssh".toList, "-o".toList, "BatchMode=yes".toList,
          outside.destination device, inside.commandLine call] :=
      Transport.spells_commandLine rfl hother hdestination hinside.no_feed
    cases user <;> exact hspells.isCall

/-- The names of a VRF, a user and a device are made of what a shell would act upon. -/
theorem Format.isCall_commandLine_hostile :
    NoFeed (some "`id`".toList) ∧ NoFeed (some "a\"$(b".toList) ∧ '\n' ∉ "\\c;#".toList ∧
      "\\c;#".toList ≠ Spawned.localDevice ∧
      IsCall "/sbin/ip -4 route show vrf \"\\`id\\`\"".toList
        ["/sbin/ip".toList, "-4".toList, "route".toList, "show".toList, "vrf".toList,
          "`id`".toList] ∧
      IsCall
        (Transport.commandLine { isRemote := true, user := some "a\"$(b".toList }
          ⟨"\\c;#".toList, .shell, "/sbin/ip -4 route show vrf \"\\`id\\`\"".toList⟩)
        ["/usr/bin/ssh".toList, "-o".toList, "BatchMode=yes".toList, "a\"$(b@\\c;#".toList,
          "/sbin/ip -4 route show vrf \"\\`id\\`\"".toList] := by
  have hvrf : NoFeed (some "`id`".toList) := noFeed_some.2 (by decide)
  have huser : NoFeed (some "a\"$(b".toList) := noFeed_some.2 (by decide)
  have hdevice : '\n' ∉ "\\c;#".toList := by decide
  have hother : "\\c;#".toList ≠ Spawned.localDevice := by decide
  have hcall := Format.isCall_commandLine .kernel
    ⟨Route.empty (Prefix.defaultRoute .v4), none, some "`id`".toList⟩ _ _ none hvrf huser
    hdevice
  exact ⟨hvrf, huser, hdevice, hother, hcall.1, hcall.2.2 hother⟩

end RouteWatch
