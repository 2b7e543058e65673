import SchemaBinding.Resolver.Basic

/-! A resolver at work: it is set up, gets another rule for names, resolves, and is looked at. -/
namespace SchemaBinding

/-- A resolver at work, and all that was logged so far. -/
structure Session where
  resolver : Resolver
  log : Log

inductive Session.Step
  | setUp (placement : Placement) (config : Config)
  | withNaming (naming : NamingRule)
  | resolve (s : Schema)
  | resolveAll (schemas : List Schema)
  | rustPath (type : TypeExpr)
  | imports (refs : List TypeExpr) (current : String)
  | describe

namespace Session

variable [Text.Transliteration]

/-- What only looks at the resolver leaves the session as it is. -/
def step (session : Session) : Step → Session
  | .setUp placement config =>
    let events := session.log.events ++ Resolver.setupEvents config
    ⟨.ofPlacement placement config, { session.log with events }⟩
  | .withNaming naming => { session with resolver := session.resolver.withNaming naming }
  | .resolve s => { session with log := ((session.resolver.resolve s).run.run session.log).2 }
  | .resolveAll schemas =>
    { session with log := ((session.resolver.resolveAll schemas).run.run session.log).2 }
  | _ => session

def run (session : Session) (steps : List Step) : Session := steps.foldl step session

end Session
end SchemaBinding
