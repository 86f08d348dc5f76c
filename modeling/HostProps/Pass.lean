import HostProps.Arguments
import HostProps.Components
import HostProps.Injection
import HostProps.RuntimeExports

/-!
# The pass

A document that is evaluated as the body of a function gets the values of its host, such as React,
as its first argument.  The components that it imports are evaluated elsewhere, and may see another
copy of them.  The pass makes the values of the host available in the document and hands them to
those components as properties:

1. it declares arguments, `const React = arguments[0].React;`,
2. it passes properties to imported components, `_jsx(Test, {React})`,
3. it takes the exports of a runtime out of the first argument if they are to be passed on,
   `const {Fragment: _Fragment, jsx: _jsx, jsxs: _jsxs} = arguments[0];`.

It never fails: what it does not recognise it leaves alone.
-/

namespace HostProps

/-- The pass on a module, with settings. -/
def Module.handOver (s : Settings) (m : Module) : Module × List Event :=
  let (_, m, inserted) := m.insertArguments s.arguments
  if s.properties.isEmpty then (m, inserted)
  else
    let (components, detected) := m.components
    let (_, m, injected) := m.injectProperties ⟨components, s.properties, s.wrapperKey⟩
    let (_, m, widened) := m.addRuntimeExports s.runtimes
    (m, inserted ++ detected ++ injected ++ widened)

/-- The pass on a document.  Options are resolved first, and say so before the pass starts. -/
def Program.handOver (o : Options) (p : Program) : Program × List Event :=
  let (settings, resolved) := o.resolve
  let (module, events) := p.module.handOver settings
  ({ p with module := module }, resolved ++ .passStarted p.path :: events)

end HostProps
