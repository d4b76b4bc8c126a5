import Ldap.Basic
import Ldap.Search
import Ldap.SearchWithChannel
import Ldap.Paging
import Ldap.Entry
import Ldap.Unmarshal
import Ldap.Reuse
import Ldap.PagingRuns
import Ldap.Values
