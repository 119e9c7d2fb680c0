import ScriptCheck.Log.Record
import ScriptCheck.Native.Builtin

/-! # The log of the registrations

Every registration is logged, and the built-in functions are counted when all of them are
registered.
-/

namespace ScriptCheck

def Native.registration (native : Native) : Log.Record :=
  ⟨.trace, .natives, s!"registering native {native.name}({native.parameters.length} params)"⟩

def Builtin.registrationLog : List Log.Record :=
  Builtin.all.map Native.registration ++
    [⟨.debug, .builtins, s!"registered {Builtin.registry.size} native functions"⟩]

end ScriptCheck
