/-!
# Data of joining letters

On which sides letters join their neighbours, as lines of a table. Marks that take no room of their
own do not come between letters and may lie inside a run of them.
-/

namespace ControlPlane.Url.Domain

/-- Runs of letters that join alike: first, last, and 0 for letters that join the next one, 1 for
those that join the one before, and 2 for those that join both. -/
def joiningLines : List String :=
  ["620 620 2,622 625 1,626 626 2,627 627 1,628 628 2,629 629 1,62a 62e 2,62f 632 1,633 63f 2",
   "641 647 2,648 648 1,649 64a 2,66e 66f 2,671 673 1,679 687 2,688 699 1,69a 6bf 2,6c0 6c0 1",
   "6c1 6c2 2,6c3 6cb 1,6cc 6cc 2,6cd 6cd 1,6ce 6ce 2,6cf 6cf 1,6d0 6d1 2,6d2 6d3 1,6d5 6d5 1",
   "6ee 6ef 1,6fa 6fc 2,6ff 6ff 2,710 710 1,712 714 2,715 719 1,71a 71d 2,71e 71e 1,71f 727 2",
   "728 728 1,729 729 2,72a 72a 1,72b 72b 2,72c 72c 1,72d 72e 2,72f 74d 1,74e 758 2,759 75b 1",
   "75c 76a 2,76b 76c 1,76d 770 2,771 771 1,772 772 2,773 774 1,775 777 2,778 779 1,77a 77f 2",
   "7ca 7ea 2,840 840 1,841 845 2,846 847 1,848 848 2,849 849 1,84a 853 2,854 854 1,855 855 2",
   "856 858 1,860 860 2,862 865 2,867 867 1,868 868 2,869 882 1,886 886 2,889 88d 2,88e 88e 1",
   "88f 8a9 2,8aa 8ac 1,8ae 8ae 1,8af 8b0 2,8b1 8b2 1,8b3 8b8 2,8b9 8b9 1,8ba 8c8 2",
   "1807 1807 2,1820 1878 2,1887 18aa 2,a840 a871 2,a872 a872 0,10ac0 10ac4 2,10ac5 10ac5 1",
   "10ac7 10ac7 1,10ac9 10aca 1,10acd 10acd 0,10ace 10ad2 1,10ad3 10ad6 2,10ad7 10ad7 0",
   "10ad8 10adc 2,10add 10add 1,10ade 10ae0 2,10ae1 10ae1 1,10ae4 10ae4 1,10aeb 10aee 2",
   "10aef 10aef 1,10b80 10b80 2,10b81 10b81 1,10b82 10b82 2,10b83 10b85 1,10b86 10b88 2",
   "10b89 10b89 1,10b8a 10b8b 2,10b8c 10b8c 1,10b8d 10b8d 2,10b8e 10b8f 1,10b90 10b90 2",
   "10b91 10b91 1,10ba9 10bac 1,10bad 10bae 2,10d00 10d00 0,10d01 10d21 2,10d22 10d22 1",
   "10d23 10d23 2,10ec2 10ec2 1,10ec3 10ec4 2,10ec6 10ec7 2,10f30 10f32 2,10f33 10f33 1",
   "10f34 10f44 2,10f51 10f53 2,10f54 10f54 1,10f70 10f73 2,10f74 10f75 1,10f76 10f81 2",
   "10fb0 10fb0 2,10fb2 10fb3 2,10fb4 10fb6 1,10fb8 10fb8 2,10fb9 10fba 1,10fbb 10fbc 2",
   "10fbd 10fbd 1,10fbe 10fbf 2,10fc1 10fc1 2,10fc2 10fc3 1,10fc4 10fc4 2,10fc9 10fc9 1",
   "10fca 10fca 2,10fcb 10fcb 0,1e922 1e943 2"]

end ControlPlane.Url.Domain
