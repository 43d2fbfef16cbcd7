import MarkupSpec.Page

/-!
# Building with settings kept

A studio keeps the settings that would otherwise be given to every build.  What
it makes is what the same build with these settings makes; a page may be given
settings of its own.
-/

namespace MarkupSpec

/-- Settings that are kept from one build to the next. -/
structure Studio where
  settings : Settings := {}
deriving DecidableEq, Repr, Inhabited

namespace Studio

/-- A new empty document, of the version in the settings unless another is
given. -/
def document (studio : Studio) (version : Value) : Build NodeId :=
  newDocument (if version.isNull then .text studio.settings.xmlVersion else version)

/-- Build a spec. -/
def markup (studio : Studio) (spec document : Value) (keywords : Keywords)
    (arguments : Value) : Build Value :=
  MarkupSpec.markup studio.settings spec document keywords arguments

/-- Build a page, with its own settings if it has any. -/
def page (studio : Studio) (page : Page) (own : Option Settings) : Build Value :=
  page.build (own.getD studio.settings)

end Studio

end MarkupSpec
