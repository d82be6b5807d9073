import Stencil.Proofs.Scan.Readers
import Stencil.Engine

set_option autoImplicit false

namespace Stencil

theorem Metadata.entries_eq (text : Text) :
    entries text = (block.cut text).parts.flatMap entriesOf := by
  rw [entries, Grammar.hits_eq_parts]

theorem Macro.expand_eq (text : Text) :
    expand text = (usage.cut (definition.cut text).gaps).rewrite
      (emit (tableOf (definition.cut text).parts)) := by
  rw [expand, expandUsages, table, Grammar.hits_eq_parts, Grammar.remove_eq_gaps,
    Grammar.substitute_eq_rewrite]

theorem Include.inline_eq (config : Config) (files : Files) (cache : Cache) (text : Text) :
    inline config files cache text =
      (directive.cut text).rewriteWith (replace config files) cache :=
  Grammar.substituteWith_eq_rewriteWith _ _ _ _

namespace Engine

end Engine

end Stencil
