import Stencil.Engine
import Stencil.Files.Tree

set_option autoImplicit false

namespace Stencil

/-- One engine at work over a changing file tree, with a cache that lasts from one render to the
next and several requests under way. -/
structure Session where
  engine : Engine
  files : Tree
  cache : Cache
  contexts : List Context

inductive Action where
  | render (context : Nat) (document : Text)
  | renderFile (context : Nat) (path : Text)
  | addMetadata (context : Nat) (key value : Text)
  | write (path : Text) (bytes : List UInt8)
  | makeDirectory (path : Text)
  | remove (path : Text)
  | askCache (key : Text)
  | storeCache (key body : Text)
  | clearCache
deriving DecidableEq, Repr

inductive Answer where
  | rendered (text : Text) (metadata : Table Text) (log : List Event)
  | unreadable (failure : TemplateError)
  | metadata (metadata : Table Text)
  | body (text : Option Text)
  | done
deriving DecidableEq

namespace Session

def context (session : Session) (index : Nat) : Context :=
  session.contexts[index]?.getD default

def keep (session : Session) (index : Nat) (progress : Progress) : Answer × Session :=
  (.rendered progress.text progress.context.metadata progress.log,
    { session with
      cache := progress.cache
      contexts := session.contexts.set index progress.context })

def perform (session : Session) : Action → Answer × Session
  | .render index document =>
      session.keep index
        (session.engine.render session.files.files session.cache (session.context index) document)
  | .renderFile index path =>
      match session.engine.renderFile session.files.files session.cache (session.context index)
        path with
      | .ok progress => session.keep index progress
      | .error error => (.unreadable ⟨path, error⟩, session)
  | .addMetadata index key value =>
      let context := (session.context index).addMetadata key value
      (.metadata context.metadata,
        { session with contexts := session.contexts.set index context })
  | .write path bytes => (.done, { session with files := session.files.write path bytes })
  | .makeDirectory path => (.done, { session with files := session.files.makeDirectory path })
  | .remove path => (.done, { session with files := session.files.remove path })
  | .askCache key =>
      let (body, cache) := session.cache.ask key
      (.body body, { session with cache := cache })
  | .storeCache key body => (.done, { session with cache := session.cache.store key body })
  | .clearCache => (.done, { session with cache := session.cache.clear })

def run (session : Session) : List Action → List Answer × Session
  | [] => ([], session)
  | action :: actions =>
      let (answer, session) := session.perform action
      let (answers, session) := session.run actions
      (answer :: answers, session)

end Session

end Stencil
