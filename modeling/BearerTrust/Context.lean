import BearerTrust.Table
import BearerTrust.Token.Compact

namespace BearerTrust

structure Context where
  tokens : List (String × Token) := []
deriving DecidableEq, Inhabited

namespace Context

/-- Keeps a token for an issuer, in the place of the one that it had. -/
def insert (shortName : String) (token : Token) (c : Context) : Context :=
  ⟨Table.put shortName token c.tokens⟩

def hasToken (c : Context) : Bool := !c.tokens.isEmpty

def token? (c : Context) (shortName : String) : Option Token := Table.get? shortName c.tokens

def claims? (c : Context) (shortName : String) : Option Claims := (c.token? shortName).map Token.claims

def issuers (c : Context) : List String := c.tokens.map Prod.fst

def first? (c : Context) : Option Token := c.tokens.head?.map Prod.snd

theorem token?_insert_self (shortName : String) (t : Token) (c : Context) :
    (c.insert shortName t).token? shortName = some t :=
  Table.get?_put_self _ _ _

theorem token?_insert_of_ne {n shortName : String} (h : n ≠ shortName) (t : Token) (c : Context) :
    (c.insert shortName t).token? n = c.token? n :=
  Table.get?_put_of_ne h _ _

end Context
end BearerTrust
