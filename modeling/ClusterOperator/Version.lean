/-!
# How the operator names itself
-/

namespace ClusterOperator

def version : String := "0.1.0"

/-- The user agent of a version. -/
def agent (version : String) : String := "CrunchyBridgeOperator/" ++ version

end ClusterOperator
