import Stencil.Provider.Registry

set_option autoImplicit false

namespace Stencil.Factory

/-- The path and the route variables, in the order of their names. The path comes last, unless a
variable has its name, and then takes the variable's place. -/
def request : Factory := fun context =>
  some (.ofTexts (context.route.sorted.insert ['p', 'a', 't', 'h'] context.path))

def query : Factory := fun context => some (.ofTexts context.query.sorted)

/-- Form parameters. A request without any is declined. -/
def post : Factory := fun context =>
  if context.post.isEmpty then none else some (.ofTexts context.post.sorted)

def metadata : Factory := fun context => some (.ofTexts context.metadata)

def sections (values : Table Value) : Factory := fun _ => some (.ofSections values)

end Stencil.Factory

namespace Stencil.Registry

def requestName : Text := ['r', 'e', 'q', 'u', 'e', 's', 't']

def queryName : Text := ['g', 'e', 't']

def postName : Text := ['p', 'o', 's', 't']

def metadataName : Text := ['m', 'e', 't', 'a']

def sectionsName : Text := ['c', 'f', 'g']

def builtin : Registry :=
  ((((empty.add requestName .request).add queryName .query).add postName .post).add
    metadataName .metadata).add sectionsName (.sections ∅)

end Stencil.Registry
