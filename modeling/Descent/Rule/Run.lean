import Descent.Rule.Basic

/-!
# Running rules

The action of a rule, with a limit on how deeply rules may call each other. Reaching the limit is
a fault, so it never looks like a text that does not match: a rule that calls itself before it
has read anything always ends so. The other limit, on the attempts of a repetition, matters only
to actions that move back.
-/

namespace Descent

/-- The limits of a run: how deeply rules may call each other, and the patience of repetitions. -/
structure Limits where
  depth : Nat
  patience : Nat

namespace Rule

/-- The action of a rule among the definitions `env`, one for each level, when `call` gives the
actions of the rules it is made of and repetitions have `patience`. -/
def layer (patience : Nat) (call : List Rule → Rule → Action Value) (env : List Rule) :
    Rule → Action Value
  | .tag literal => (Action.tag literal).mapValue .location
  | .regex pattern accepts => (Action.regex pattern accepts).mapValue .location
  | .eof => Action.eof.mapValue .location
  | .action run => run
  | .map f r => (call env r).transform f
  | .both r s => ((call env r).both (call env s)).mapValue fun v => .pair v.1 v.2
  | .keepLeft r s => (call env r).keepLeft (call env s)
  | .keepRight r s => (call env r).keepRight (call env s)
  | .choices _ rs => Action.choices (rs.map fun r => (r.label, call env r))
  | .many min max r => (Action.many patience min max (call env r)).mapValue .list
  | .seq rs => (Action.seq (rs.map fun r => (r.isIgnored, call env r))).mapValue .list
  | .catching handler r => (call env r).catching handler
  | .named _ r => call env r
  | .ignored r => call env r
  | .fix level definition => call (env.take level ++ [definition]) definition
  | .ref level name =>
    match env[level]? with
    | some definition => call (env.take (level + 1)) definition
    | none => Action.fault (.grammar (.unboundRule name))

/-- The action of a rule among the definitions `env` when rules may call each other `limit`
deep and repetitions have `patience`. -/
def run (patience : Nat) : Nat → List Rule → Rule → Action Value
  | 0, _, _ => Action.fault .tooDeep
  | limit + 1, env, rule => ⟨fun c => (layer patience (run patience limit) env rule).run c⟩

/-- The action of a rule that stands by itself. -/
def call (limits : Limits) (r : Rule) : Action Value := run limits.patience limits.depth [] r

/-- One more level of depth is one more layer. -/
theorem run_succ (patience limit : Nat) (env : List Rule) (r : Rule) :
    run patience (limit + 1) env r = layer patience (run patience limit) env r := rfl

end Rule

end Descent
