import Stencil.Table

set_option autoImplicit false

namespace Stencil

/-- A request with its parameters, and the metadata that documents record. -/
structure Context where
  path : Text
  route : Table Text := ∅
  query : Table Text := ∅
  post : Table Text := ∅
  extras : Table Text := ∅
  metadata : Table Text := ∅
  ignoresSyntax : Bool := false
deriving DecidableEq

namespace Context

def new (path : Text) : Context where
  path := path

instance : Inhabited Context := ⟨new ['/']⟩

def withRoute (context : Context) (key value : Text) : Context :=
  { context with route := context.route.insert key value }

def withQuery (context : Context) (key value : Text) : Context :=
  { context with query := context.query.insert key value }

def withPost (context : Context) (key value : Text) : Context :=
  { context with post := context.post.insert key value }

def withExtra (context : Context) (key value : Text) : Context :=
  { context with extras := context.extras.insert key value }

def ignoring (context : Context) : Context := { context with ignoresSyntax := true }

/-- Records metadata. A repeated key keeps its place and takes the new value. -/
def addMetadata (context : Context) (key value : Text) : Context :=
  { context with metadata := context.metadata.insert key value }

def addAllMetadata (context : Context) (entries : List (Text × Text)) : Context :=
  { context with metadata := context.metadata.insertAll entries }

end Context

end Stencil
