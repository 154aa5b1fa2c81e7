import PluginForms.Text.Basic

/-!
Plugins come in kinds. Names, selectors, aliases and providers are indexed by
the kind they belong to, so a name of one kind is never looked up among plugins
of another.
-/

namespace PluginForms

structure Kind where
  /-- What messages call a plugin of this kind. -/
  label : Text
  /-- The names that are known before any plugin is. A name that is read from one of these texts
  is the constant. -/
  constants : List Text

end PluginForms
